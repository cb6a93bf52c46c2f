import PageConfig.Source.Grammar.Basic

/-!
# Types

Of a type only the expressions written in it are kept, in the order of the
walk, which goes through the parameters of a signature first, then its result
and then its type parameters.  Where a bracket could open more than one form,
the tokens after it settle which one it is, and the form is then read without a
way back.
-/

namespace PageConfig.Source.Types

open Parse

/-- What is wanted where a type has to start. -/
def wanted : String :=
  "an identifier, void, yield, null, await, break, a string literal, a numeric literal, true, " ++
  "false, `, -, import, this, typeof, \x7b, [, ("

/-! ### Names and lists -/

/-- Types between angle brackets. -/
def arguments (G : Grammar) : Parse (List Expr) := do
  expectChar '<'
  let es ← writtenIn (return !(← atChar '>')) do
    let es ← G.type
    if ← atChar '>' then pure () else expect ","
    pure es
  expectChar '>'
  pure es

/-- Type arguments, if an angle bracket follows on the line. -/
def argumentsHere (G : Grammar) : Parse (List Expr) := do
  let c ← get
  if !c.broken && (c.token = .punct "<" || c.token = .punct "<<") then arguments G else pure []

/-- One type parameter, with its bound and default. -/
def parameter (G : Grammar) : Parse (List Expr) := do
  let _ ← allThere (eatModifier ["public", "private", "protected", "readonly", "abstract", "const",
    "override", "in", "out"])
  let _ ← anyWord
  let bound ← if ← eatWord "extends" then G.type else pure []
  let initial ← if ← eat "=" then G.type else pure []
  pure (bound ++ initial)

/-- Type parameters, if they are there. -/
def parameters (G : Grammar) : Parse (List Expr) := do
  if ← atMark "<" then
    advance
    let es ← writtenIn (return !(← atChar '>')) do
      let es ← parameter G
      if ← atChar '>' then pure () else expect ","
      pure es
    expectChar '>'
    pure es
  else pure []

/-- Names joined by points.  A point that no name follows ends them.  Without `anyNames` the names
after the first are those of values. -/
def entity (anyNames : Bool) : Parse Unit := do
  let _ ← anyWord
  let _ ← several (do
      if ← eat "." then
        match ← token with
        | .word _ | .hidden _ => pure true
        | _ => pure false
      else pure false) do
    let _ ← if anyNames then anyWord else nameWith false

/-- Whether a type list that a class or an interface builds on ends here. -/
def atHeritageEnd : Parse Bool := do
  pure ((← atMark "\x7b") || (← atWord "implements") || (← atWord "extends"))

/-- The types that a class or an interface builds on, up to its body. -/
def heritage (G : Grammar) : Parse (List Expr) :=
  writtenIn (return !(← atHeritageEnd)) do
    let w ← anyWord
    let e ← G.chain Context.top false false (.ident w)
    let es ← if ← atMark "<" then arguments G else pure []
    if ← eat "," then pure ()
    else if ← atHeritageEnd then pure ()
    else expect ","
    pure (e :: es)

/-! ### Annotations -/

/-- What a function returns: a type, or a claim about one of its parameters. -/
def result (G : Grammar) : Parse (List Expr) := do
  let asserts := (← atWord "asserts") && isName (← following).token
  if asserts then advance
  let n ← following
  let claims := (← atName) && n.token = .word "is" && !n.broken
  if asserts || claims then
    let _ ← anyWord
    if claims then
      advance
      G.type
    else pure []
  else G.type

/-- A type after a colon, if there is a colon. -/
def annotation (G : Grammar) : Parse (List Expr) := do
  if ← eat ":" then G.type else pure []

/-- A result type after a colon, if there is a colon. -/
def resultAnnotation (G : Grammar) : Parse (List Expr) := do
  if ← eat ":" then result G else pure []

/-! ### Functions -/

/-- The parameters of a function type, each by the expressions written in its pattern and its type:
they have no defaults, and their decorators are dropped. -/
def signatureParameters (G : Grammar) : Parse (List (List Expr)) := do
  expect "("
  let ps ← G.parameters Context.top
  if ps.any (·.hasDefault) then
    unexpected ("an identifier, [ for an array pattern, \x7b for an object patter or ... for a " ++
      "rest pattern")
  expect ")"
  pure (ps.map (·.parts))

/-- A function type.  Its type parameters go before its result here, and behind it in a
signature. -/
def function (G : Grammar) : Parse (List Expr) := do
  let types ← parameters G
  let params ← signatureParameters G
  expect "=>"
  return params.flatten ++ types ++ (← result G)

/-- Moves past what a parameter can start with, if it is there. -/
def skipParameterStart (G : Grammar) : Parse Bool := do
  eatAccess
  match ← token with
  | .word _ => do advance; pure true
  | .punct m =>
    if m = "\x7b" || m = "[" then return (← attempt (G.pattern Context.top)).isSome else pure false
  | _ => pure false

/-- Whether the parenthesis at a cursor opens the parameters of a function type. -/
def opensParameters (G : Grammar) (c : Cursor) : Bool :=
  let look : Parse Bool := do
    advance
    if ← atMarks [")", "..."] then pure true
    else if ← skipParameterStart G then
      if ← atMarks [":", ",", "=", "?"] then pure true
      else do pure ((← eat ")") && (← atMark "=>"))
    else pure false
  match look c with
  | .ok b _ => b
  | .error _ _ => false

/-! ### Object types -/

/-- Whether a bracket opens a parameter that stands for many keys. -/
def opensIndex (c : Cursor) : Bool :=
  let n := c.next
  c.token = .punct "[" && isName n.token
    && (n.next.token = .punct ":" || n.next.token = .punct ",")

/-- The end of a member of an object type. -/
def endMember : Parse Unit := do
  if ← eat "," then pure () else endStatement

/-- A type for all members, after a parameter in brackets that stands for their keys. -/
def indexSignature (G : Grammar) : Parse (List Expr) := do
  expect "["
  let _ ← anyWord
  if ← eat "," then pure () else expect ":"
  let keys ← G.type
  expect "]"
  let values ← annotation G
  endMember
  pure (keys ++ values)

/-- The key of a member of an object type. -/
def memberKey (G : Grammar) : Parse (List Expr) := do
  match ← token with
  | .string _ | .number _ | .bigint | .hidden _ => do advance; pure []
  | .punct "[" => do
    advance
    let e ← G.assignment Context.top
    expect "]"
    pure [e]
  | _ => do
    let _ ← anyWord
    pure []

/-- What follows the key of a member that can be called, or the mark of a call. -/
def signature (G : Grammar) : Parse (List Expr) := do
  let types ← parameters G
  let params ← signatureParameters G
  let res ← resultAnnotation G
  endMember
  pure (params.flatten ++ res ++ types)

/-- A member that is read by a function. -/
def getter (G : Grammar) : Parse (List Expr) := do
  expectWord "get"
  let k ← memberKey G
  expect "("
  expect ")"
  return k ++ (← annotation G)

/-- A member that is written by a function.  Nobody sees more than the first parameter. -/
def setter (G : Grammar) : Parse (List Expr) := do
  expectWord "set"
  let k ← memberKey G
  let empty := (← following).token = .punct ")"
  let params ← signatureParameters G
  if empty then fail .nameExpected
  pure (k ++ params.head?.getD [])

/-- A member that is read or written by a function. -/
def accessor (G : Grammar) : Parse (List Expr) := do
  let es ← if ← atWord "get" then getter G else setter G
  endMember
  pure es

/-- A member of an object type. -/
def member (G : Grammar) : Parse (List Expr) := do
  wellCut
  let c ← get
  let n := c.next
  if c.token = .eof then fail .endOfText
  else if c.token = .punct "(" || c.token = .punct "<" then signature G
  else if c.token = .word "new" && (n.token = .punct "(" || n.token = .punct "<") then
    advance
    signature G
  else
    let readOnly ← eatModifier ["readonly"]
    if opensIndex (← get) then indexSignature G
    else
      let accessed ← if readOnly.isNone then attempt (accessor G) else pure none
      match accessed with
      | some es => pure es
      | none => do
        let k ← memberKey G
        let _ ← eat "?"
        if (← atMark "(") || (← atMark "<") then
          if readOnly.isSome then fail .readOnlyMethod
          return k ++ (← signature G)
        else
          let es ← annotation G
          endMember
          pure (k ++ es)

/-- The members of an object type, in braces. -/
def members (G : Grammar) : Parse (List Expr) := do
  expect "\x7b"
  let es ← writtenIn (return !(← atMark "\x7d")) (member G)
  expect "\x7d"
  pure es

/-- Whether the brace at a cursor opens a type with one member for each key of another type. -/
def opensMapped (c : Cursor) : Bool :=
  let n := c.next
  if n.token = .punct "+" || n.token = .punct "-" then n.next.token = .word "readonly"
  else
    let n := if n.token = .word "readonly" then n.next else n
    n.token = .punct "[" && isName n.next.token && n.next.next.token = .word "in"

/-- A sign in front of a modifier, or the modifier alone. -/
def signed (modifier : Parse Unit) (bare : Parse Bool) : Parse Unit := do
  if ← atMarks ["+", "-"] then
    advance
    modifier
  else
    let _ ← bare

/-- A type with one member for each key of another type. -/
def mapped (G : Grammar) : Parse (List Expr) := do
  expect "\x7b"
  signed (expectWord "readonly") (eatWord "readonly")
  expect "["
  let _ ← anyWord
  if ← eatWord "in" then pure () else unexpected "in"
  let keys ← G.type
  let names ← if ← eatWord "as" then G.type else pure []
  expect "]"
  signed (expect "?") (eat "?")
  let values ← annotation G
  endStatement
  expect "\x7d"
  pure (keys ++ names ++ values)

/-! ### Other types -/

/-- A place in a tuple type, which may have a name. -/
def tupleItem (G : Grammar) : Parse (List Expr) := do
  let _ ← attempt do
    let _ ← eat "..."
    let _ ← anyWord
    let _ ← eat "?"
    expect ":"
  if ← eat "..." then G.type
  else
    let es ← G.type
    let _ ← eat "?"
    pure es

/-- The attributes of an imported module, in braces. -/
def importAttributes (G : Grammar) : Parse (List Expr) := do
  if ← eat "\x7b" then
    expectWord "with"
    expect ":"
    let e ← if ← atMark "\x7b" then G.operand Context.top else missing "\x7b"
    let _ ← eat ","
    expect "\x7d"
    pure [e]
  else pure []

/-- The type of a module, or of a part of it. -/
def imported (G : Grammar) : Parse (List Expr) := do
  expectWord "import"
  expect "("
  advance
  let attributes ← if ← eat "," then importAttributes G else pure []
  expect ")"
  if ← eat "." then entity false
  let es ← if ← atMark "<" then arguments G else pure []
  pure (es ++ attributes)

/-- Words that name a type and take no type arguments. -/
def basicTypes : List String :=
  ["any", "boolean", "bigint", "never", "number", "object", "string", "symbol", "unknown",
   "undefined", "intrinsic", "void", "null"]

/-- Words of the grammar that a type may start with as with a name. -/
def typeWords : List String := ["void", "yield", "null", "await", "break"]

/-- A type told by its name. -/
def named (G : Grammar) (w : String) : Parse (List Expr) := do
  let n ← following
  if w = "asserts" && n.token = .word "this" then
    advance
    advance
    if ← eatWord "is" then G.type else pure []
  else if basicTypes.contains w && n.token ≠ .punct "." then
    advance
    pure []
  else
    eatAccess
    entity true
    argumentsHere G

/-- A type that starts with a word. -/
def wordType (G : Grammar) (w : String) : Parse (List Expr) := do
  match w with
  | "true" => do advance; pure []
  | "false" => do advance; pure []
  | "import" => imported G
  | "this" => do
    advance
    let c ← get
    if c.token = .word "is" && !c.broken then
      advance
      G.type
    else pure []
  | "typeof" => do
    advance
    let es ← if ← atWord "import" then imported G
      else do
        entity true
        pure []
    return es ++ (← argumentsHere G)
  | _ => if keywords.contains w && !typeWords.contains w then unexpected wanted else named G w

/-- A type that is not an array, a member or a combination of others. -/
def simple (G : Grammar) : Parse (List Expr) := do
  wellCut
  let c ← get
  match c.token with
  | .eof => fail .endOfText
  | .word w => wordType G w
  | .string _ | .number _ | .bigint => do advance; pure []
  | .template _ _ => return (← template false G.type).2.flatten
  | .punct "-" => do
    advance
    match ← token with
    | .number _ | .bigint => do advance; pure []
    | _ => unexpected "numeric literal or bigint literal"
  | .punct "\x7b" => if opensMapped c then mapped G else members G
  | .punct "[" => do
    advance
    return (← listUntil "]" (tupleItem G)).flatten
  | .punct "(" => do
    advance
    let es ← G.type
    expect ")"
    pure es
  | _ => unexpected wanted

/-- A type followed by the brackets of arrays and members. -/
def suffixed (G : Grammar) : Parse (List Expr) := do
  let first ← simple G
  let more ← writtenIn (do
      let c ← get
      pure (c.token = .punct "[" && !c.broken)) do
    advance
    let es ← if ← atMark "]" then pure [] else G.type
    expect "]"
    pure es
  pure (first ++ more)

/-- A type to be found by matching, with its bound.  Before a question mark a bound is none, unless
the type stands where no condition can. -/
def inferred (G : Grammar) (conditional : Bool) : Parse (List Expr) := do
  expectWord "infer"
  let _ ← anyWord
  let bound ← attempt do
    expectWord "extends"
    let es ← G.plainType
    if conditional && (← atMark "?") then unexpected wanted
    pure es
  pure (bound.getD [])

/-- A type after the operators in front of it. -/
def operator (G : Grammar) (conditional : Bool) : Parse (List Expr) := do
  let _ ← several (return [Token.word "keyof", .word "unique", .word "readonly"].contains (← token))
    advance
  if ← atWord "infer" then inferred G conditional else suffixed G

/-- Types joined by a mark, which may also stand in front. -/
def joined (m : String) (item : Parse (List Expr)) : Parse (List Expr) := do
  let _ ← eat m
  let first ← item
  let more ← writtenIn (atMark m) do
    advance
    item
  pure (first ++ more)

/-- A type that does not depend on another. -/
def plain (G : Grammar) (conditional : Bool) : Parse (List Expr) := do
  let c ← get
  if c.token = .punct "<" then function G
  else if c.token = .punct "(" && opensParameters G c then function G
  else if c.token = .word "new" || (c.token = .word "abstract" && c.next.token = .word "new") then
    let _ ← eatWord "abstract"
    advance
    function G
  else joined "|" (joined "&" (operator G conditional))

/-- A type of any kind. -/
def type (G : Grammar) (conditional : Bool) : Parse (List Expr) := do
  let tested ← plain G conditional
  let c ← get
  if conditional && c.token = .word "extends" && !c.broken then
    advance
    let bound ← G.plainType
    expect "?"
    let yes ← G.type
    expect ":"
    let no ← G.type
    pure (tested ++ bound ++ yes ++ no)
  else pure tested

end PageConfig.Source.Types
