import PageConfig.Source.Token

/-!
# Grammar

The grammar has one rule for each `Goal`, and a rule refers to goals, its own
included, only through the `Grammar` it is given.  The rules are tied together
at the end, by as many rounds as the text could nest.  What a goal reads is
its `Tree`.

A parser that fails leaves the cursor where it failed, so that a rule that
goes on after a failure goes on from there.
-/

namespace PageConfig.Source

/-- A parser moves a cursor over the text, and says where it is also when it fails. -/
abbrev Parse := EStateM Fault Cursor

/-- Where an expression or a statement stands. -/
structure Context where
  /-- In the head of a loop, where `in` is no operator. -/
  noIn : Bool
  inAsync : Bool
  inGenerator : Bool
  /-- Between the mark and the colon of a conditional. -/
  colonAhead : Bool
  /-- At the start of an assignment, where an arrow function may start. -/
  arrowHere : Bool
  /-- In a declaration of what is defined elsewhere. -/
  ambient : Bool
deriving DecidableEq, Inhabited

namespace Context

/-- The context of a module. -/
def top : Context := ⟨false, false, false, false, false, false⟩

/-- The context inside brackets. -/
def inner (c : Context) : Context :=
  { c with noIn := false, colonAhead := false, arrowHere := false }

/-- The context after the first token of an assignment. -/
def onward (c : Context) : Context := { c with arrowHere := false }

/-- The context inside a function. -/
def function (c : Context) (inAsync inGenerator : Bool) : Context :=
  { c.inner with inAsync := inAsync, inGenerator := inGenerator }

end Context

/-- What is bound: a name, or the expressions written in a pattern. -/
structure Pattern where
  name : Option String
  parts : List Expr

/-- A parameter of a function. -/
structure Parameter where
  decorators : List Expr
  /-- The expressions written in its pattern, its type and its default. -/
  parts : List Expr
  hasDefault : Bool

/-- The expressions written in a parameter, in order. -/
def Parameter.exprs (p : Parameter) : List Expr := p.decorators ++ p.parts

/-- What the grammar can be asked to read. -/
inductive Goal where
  /-- Expressions separated by commas. -/
  | expression (c : Context)
  | assignment (c : Context)
  /-- Operands joined by operators that bind tighter than a level. -/
  | operation (c : Context) (level : Nat)
  | unary (c : Context)
  /-- A value with its members and calls. -/
  | operand (c : Context)
  /-- The members and calls after a value, where `calls` allows calls and `computed` members in
  brackets. -/
  | chain (c : Context) (calls computed : Bool) (e : Expr)
  /-- The parameters of a function, up to the closing parenthesis. -/
  | parameters (c : Context)
  /-- A pattern; in some declarations `let` is no name. -/
  | pattern (c : Context) (noLet : Bool)
  /-- A type, by the expressions written in it; with `conditional`, also one that depends on
  another. -/
  | type (conditional : Bool)
  /-- An element; a child of another one is followed by text. -/
  | element (c : Context) (isChild : Bool)
  /-- A statement; the body of another one does not declare variables of its own. -/
  | statement (c : Context) (isBody : Bool)

/-- What a goal reads. -/
abbrev Goal.Tree : Goal → Type
  | expression _ | assignment _ | operation _ _ | unary _ | operand _ | chain _ _ _ _
  | element _ _ => Expr
  | parameters _ => List Parameter
  | pattern _ _ => Pattern
  | type _ => List Expr
  | statement _ _ => Stmt

/-- A parser for every goal. -/
abbrev Grammar := (g : Goal) → Parse g.Tree

namespace Grammar

def expression (G : Grammar) (c : Context) : Parse Expr := G (.expression c)
def assignment (G : Grammar) (c : Context) : Parse Expr := G (.assignment c)
def operation (G : Grammar) (c : Context) (level : Nat) : Parse Expr := G (.operation c level)
def unary (G : Grammar) (c : Context) : Parse Expr := G (.unary c)
def operand (G : Grammar) (c : Context) : Parse Expr := G (.operand c)
def chain (G : Grammar) (c : Context) (calls computed : Bool) (e : Expr) : Parse Expr :=
  G (.chain c calls computed e)
def parameters (G : Grammar) (c : Context) : Parse (List Parameter) := G (.parameters c)
def pattern (G : Grammar) (c : Context) : Parse Pattern := G (.pattern c false)
def declared (G : Grammar) (c : Context) (noLet : Bool) : Parse Pattern := G (.pattern c noLet)
def type (G : Grammar) : Parse (List Expr) := G (.type true)
def plainType (G : Grammar) : Parse (List Expr) := G (.type false)
def element (G : Grammar) (c : Context) : Parse Expr := G (.element c false)
def child (G : Grammar) (c : Context) : Parse Expr := G (.element c true)
def statement (G : Grammar) (c : Context) : Parse Stmt := G (.statement c false)
def body (G : Grammar) (c : Context) : Parse Stmt := G (.statement c true)

end Grammar

namespace Parse

/-- The cursor after a failure at it: a token that could not be cut is passed over. -/
def settle (c : Cursor) : Cursor :=
  match c.token with
  | .bad _ => c.next
  | _ => c

/-- Fails at the current token. -/
def fail {α : Type} (cause : Cause) : Parse α := fun c => .error ⟨cause, c.start⟩ (settle c)

/-- Fails at a given place. -/
def failAt {α : Type} (cause : Cause) (rest : List Char) : Parse α := fun c =>
  .error ⟨cause, rest⟩ (settle c)

/-- Moves to the next token. -/
def advance : Parse Unit := modify Cursor.next

/-- Moves to the first token of a text. -/
def seek (cs : List Char) : Parse Unit := set (Cursor.at cs)

/-- The current token. -/
def token : Parse Token := return (← get).token

/-- The token after the current one. -/
def following : Parse Cursor := return (← get).next

/-- Fails with what is wrong with the current token, if it could not be cut. -/
def wellCut : Parse Unit := fun c =>
  match c.token with
  | .bad f => .error f c.next
  | _ => .ok () c

/-- Whether the current token is a mark. -/
def atMark (m : String) : Parse Bool := return (← get).token = .punct m

/-- Whether the current token is a word. -/
def atWord (w : String) : Parse Bool := return (← get).token = .word w

/-- Whether the current token is one of some marks. -/
def atMarks (ms : List String) : Parse Bool := do
  match ← token with
  | .punct m => pure (ms.contains m)
  | _ => pure false

/-- Moves past a mark if it is there. -/
def eat (m : String) : Parse Bool := do
  if ← atMark m then do advance; pure true else pure false

/-- Moves past a word if it is there. -/
def eatWord (w : String) : Parse Bool := do
  if ← atWord w then do advance; pure true else pure false

/-- Fails for want of a definite token. -/
def missing {α : Type} (wanted : String) : Parse α := do
  fail (.missing wanted (← token).shown)

/-- Fails because the current token is none of those wanted. -/
def unexpected {α : Type} (wanted : String) : Parse α := do
  fail (.unexpected (← token).shown wanted)

/-- Moves past a mark that has to be there. -/
def expect (m : String) : Parse Unit := do
  if ← atMark m then advance else missing m

/-- Moves past a word that has to be there. -/
def expectWord (w : String) : Parse Unit := do
  if ← atWord w then advance else missing w

/-- Whether the text starts with a character here, whatever token it belongs to. -/
def atChar (ch : Char) : Parse Bool := return (← get).start.head? = some ch

/-- Moves past a single character, which may be the first of a longer token. -/
def eatChar (ch : Char) : Parse Bool := do
  if ← atChar ch then do seek ((← get).start.drop 1); pure true else pure false

/-- Moves past a single character that has to be there. -/
def expectChar (ch : Char) : Parse Unit := do
  if ← eatChar ch then pure () else missing ch.toString

/-- Whether a statement could end before the current token. -/
def atStatementEnd : Parse Bool := do
  let c ← get
  pure (c.broken || c.token = .punct ";" || c.token = .punct "\x7d" || c.token = .eof)

/-- Moves past the end of a statement if one is here: a semicolon, or a place where one may be left
out. -/
def eatEnd : Parse Bool := do
  if ← eat ";" then pure true else atStatementEnd

/-- The end of a statement, which has to be here. -/
def endStatement : Parse Unit := do
  if ← eatEnd then pure () else missing ";"

/-- Tries a parser; if it fails, nothing has been read. -/
def attempt {α : Type} (p : Parse α) : Parse (Option α) := fun c =>
  match p c with
  | .ok a c' => .ok (some a) c'
  | .error _ _ => .ok none c

/-- Runs a parser as far as it gets. -/
def asFarAs {α : Type} (p : Parse α) : Parse (Option α) := fun c =>
  match p c with
  | .ok a c' => .ok (some a) c'
  | .error _ c' => .ok none c'

/-- Reads items as long as there are more, at most so many. -/
def repeatWhile {α : Type} (more : Parse Bool) (item : Parse α) : Nat → Parse (List α)
  | 0 => pure []
  | fuel + 1 => do
    if ← more then
      let x ← item
      let xs ← repeatWhile more item fuel
      pure (x :: xs)
    else pure []

/-- Reads items until one is not there, at most so many. -/
def repeatSome {α : Type} (item : Parse (Option α)) : Nat → Parse (List α)
  | 0 => pure []
  | fuel + 1 => do
    match ← item with
    | some x => return x :: (← repeatSome item fuel)
    | none => pure []

/-- How much text is left, as a bound on what can be read from it. -/
def remaining : Parse Nat := return (← get).start.length + 1

/-- Reads items as long as there are more. -/
def several {α : Type} (more : Parse Bool) (item : Parse α) : Parse (List α) := do
  repeatWhile more item (← remaining)

/-- Reads items as long as there are more, each for the expressions written in it. -/
def writtenIn (more : Parse Bool) (item : Parse (List Expr)) : Parse (List Expr) := do
  return (← several more item).flatten

/-- Reads items until one is not there. -/
def allThere {α : Type} (item : Parse (Option α)) : Parse (List α) := do
  repeatSome item (← remaining)

/-- Items up to a closing mark, with a comma after each that is not the last; the comma after the
last may be there. -/
def listUntil {α : Type} (close : String) (item : Parse α) : Parse (List α) := do
  let xs ← several (return !(← atMark close)) do
    let x ← item
    if ← atMark close then pure () else expect ","
    pure x
  expect close
  pure xs

/-! ### Names -/

/-- Whether a token is a name that a value can have. -/
def isName : Token → Bool
  | .word w => !isReserved w
  | _ => false

/-- Whether the current token is a name that a value can have. -/
def atName : Parse Bool := return isName (← token)

/-- Any word. -/
def anyWord : Parse String := do
  match ← token with
  | .word w => do advance; pure w
  | _ => fail .nameExpected

/-- A name where one is wanted.  Words reserved for later ones pass, and so does `this`; `yield`
passes if it is said to. -/
def nameWith (withYield : Bool) : Parse String := do
  match ← token with
  | .word w =>
    if w = "await" then fail .awaitName
    else if keywords.contains w && !(w = "this" || w = "let" || (w = "yield" && withYield)) then
      fail .nameExpected
    else do
      advance
      pure w
  | _ => fail .nameExpected

/-- A name that is bound.  In some declarations `let` is none. -/
def bindingName (noLet : Bool) : Parse String := do
  if noLet && (← atWord "let") then
    unexpected "let is reserved in const, let, class declaration"
  else nameWith true

/-- A name that is bound, if one is here. -/
def bindingName? (noLet : Bool) : Parse (Option String) := do
  if ← atName then return some (← bindingName noLet) else pure none

/-! ### Modifiers -/

/-- Whether a word before a token may modify what starts with it: a name or a key that stands on
the line of the word. -/
def takesModifier (n : Cursor) : Bool :=
  !n.broken && match n.token with
    | .word _ | .string _ | .number _ | .bigint | .hidden _ => true
    | .punct m => ["[", "\x7b", "*", "..."].contains m
    | _ => false

/-- Moves past a modifier if one of some is there, and tells which. -/
def eatModifier (allowed : List String) : Parse (Option String) := do
  let c ← get
  match c.token with
  | .word w =>
    if allowed.contains w && takesModifier c.next then do advance; pure (some w) else pure none
  | _ => pure none

/-- Moves past a word that says who may use a parameter, if one stands before a pattern. -/
def eatAccess : Parse Unit := do
  let opens := match (← following).token with
    | .word _ => true
    | .punct m => m = "[" || m = "\x7b"
    | _ => false
  if opens then
    let _ ← eatModifier ["public", "protected", "private", "readonly"]

/-! ### Templates -/

/-- The pieces and parts of a template after a piece of it.  Without `lenient`, escapes have to
mean something. -/
def templateRest {α : Type} (lenient : Bool) (part : Parse α) :
    Nat → Bool → Piece → Parse (List Piece × List α)
  | fuel, closed, p => do
    match lenient, p.fault with
    | false, some f => failAt f.cause f.rest
    | _, _ =>
      match fuel, closed with
      | _, true => pure ([p], [])
      | 0, false => fail .exhausted
      | fuel + 1, false => do
        let x ← part
        if ← atMark "\x7d" then pure () else unexpected "`\x7d`"
        match piece? (← get).rest with
        | none => fail .unterminatedTemplate
        | some (closed, q, after) => do
          seek after
          let (ps, xs) ← templateRest lenient part fuel closed q
          pure (p :: ps, x :: xs)

/-- The template at the current token. -/
def template {α : Type} (lenient : Bool) (part : Parse α) : Parse (List Piece × List α) := do
  match ← token with
  | .template closed p => do
    let fuel ← remaining
    advance
    templateRest lenient part fuel closed p
  | _ => fail .expressionExpected

end Parse

end PageConfig.Source
