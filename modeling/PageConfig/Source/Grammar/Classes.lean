import PageConfig.Source.Grammar.Functions

/-!
# Classes

A member is read as a run of modifiers, a key, and what makes it a field or a
method.  Some modifiers are names of members themselves if no key follows them.
-/

namespace PageConfig.Source.Classes

open Parse

/-! ### Keys and modifiers -/

/-- The key of a class member; a private one has no text. -/
def memberKey (G : Grammar) (c : Context) : Parse (Option Key) := do
  match ← token with
  | .hidden _ => do advance; pure none
  | _ => return some (← key G c)

/-- Whether a key is that of the constructor. -/
def isConstructor : Option Key → Bool
  | some (.name s) => s = "constructor"
  | some (.string s) => s = "constructor"
  | _ => false

/-- Whether a method goes on here after its key. -/
def atMethod : Parse Bool := atMarks ["(", "<"]

/-- Whether a field goes on here after its key; with `line`, it may also end with the line. -/
def atField (line : Bool) : Parse Bool := do
  if ← atMarks ["!", ":", "=", "\x7d", ";"] then pure true
  else if line then atStatementEnd
  else pure false

/-- What the modifiers in front of a member say of it. -/
structure Modifiers where
  isStatic : Bool
  isAccessor : Bool
  readOnly : Bool
  /-- Whether it says who may use it, or what becomes of it in subclasses. -/
  isRestricted : Bool

/-- A member being read: the text from it on, and its decorators. -/
structure Draft where
  place : List Char
  decorators : List Expr

/-! ### Fields and methods -/

/-- A field, after its key. -/
def field (G : Grammar) (c : Context) (d : Draft) (isAccessor : Bool) (k : Option Key) :
    Parse ClassMember := do
  let _ ← eat "!"
  let types ← Types.annotation G
  let value ← initial G (c.function false false)
  let _ ← eatEnd
  let annotations := types ++ d.decorators
  match k with
  | some k =>
    if isAccessor then pure (.hiddenField (k.parts ++ value.toList ++ annotations))
    else pure (.field k value annotations)
  | none => pure (.hiddenField (value.toList ++ annotations))

/-- A method, after its key. -/
def method (G : Grammar) (c : Context) (d : Draft) (inAsync inGenerator : Bool) (k : Option Key) :
    Parse ClassMember := do
  let f ← functionRest G (c.function inAsync inGenerator)
  pure (.method k (f.parts d.decorators))

/-- A constructor, after its key.  It takes no type parameters and has no result, so what is
written there is dropped. -/
def constructor (G : Grammar) (c : Context) (k : Option Key) : Parse ClassMember := do
  let inside := c.function false false
  let _ ← Types.parameters G
  expect "("
  let ps ← parametersOf (constructorParameter G inside)
  expect ")"
  let _ ← Types.annotation G
  let body ← functionBody G inside
  pure (.method k (FunctionRest.parts ⟨ps, body, [], []⟩ []))

/-- A block that runs when the class is made. -/
def staticBlock (G : Grammar) (c : Context) : Parse ClassMember := do
  return .method none (← block G (c.function false false))

/-- What follows a word that may be a modifier or the key of a member, if it is the key. -/
def named? (G : Grammar) (c : Context) (d : Draft) (line : Bool) (w : String) :
    Parse (Option ClassMember) := do
  if ← atMethod then return some (← method G c d false false (some (.name w)))
  else if (← atField line) || (← atMark "?") then
    let _ ← eat "?"
    return some (← field G c d false (some (.name w)))
  else pure none

/-- A member, after a key that says what it is only together with what follows. -/
def keyed (G : Grammar) (c : Context) (d : Draft) (m : Modifiers) (k : Option Key)
    (keyPlace : List Char) : Parse ClassMember := do
  let cur ← get
  let isWord := fun w => match k with
    | some (.name s) => s = w
    | _ => false
  let starLine := cur.broken && cur.token = .punct "*"
  let accesses := (isWord "get" || isWord "set") && !(← atField false) && !starLine
  if !accesses && (← atField true) then
    if isConstructor k then failAt .fieldConstructor keyPlace
    field G c d m.isAccessor k
  else if isWord "async" && !cur.broken then
    let _ ← eatModifier ["override"]
    let star ← eat "*"
    let place := (← get).start
    let k ← memberKey G c
    if isConstructor k then failAt .asyncConstructor place
    let _ ← eat "?"
    method G c d true star k
  else if accesses then
    let k ← memberKey G c
    method G c d false false k
  else unexpected "* for generator, private key, identifier or async"

/-- A member, after its modifiers. -/
def modified (G : Grammar) (c : Context) (d : Draft) (m : Modifiers) : Parse ClassMember := do
  let cur ← get
  if m.isStatic && cur.token = .punct "\x7b" then staticBlock G c
  else if cur.token = .word "static" && cur.next.token = .punct "\x7b" then
    advance
    staticBlock G c
  else if !m.isRestricted && Types.opensIndex cur then
    return .hiddenField (← Types.indexSignature G)
  else if ← eat "*" then
    let k ← memberKey G c
    method G c d false true k
  else
    let k ← if m.readOnly && (← atMarks ["!", ":"]) then pure (some (.name "readonly"))
      else memberKey G c
    let _ ← eat "?"
    if ← atMethod then
      if m.readOnly then failAt .readOnlyMethod d.place
      else if isConstructor k then constructor G c k
      else method G c d false false k
    else keyed G c d m k cur.start

/-! ### Members -/

/-- A member after the modifiers that may also be its key. -/
def member (G : Grammar) (c : Context) : Parse ClassMember := do
  wellCut
  let place := (← get).start
  let d : Draft := ⟨place, ← decorators G c⟩
  let early ← eatWord "declare"
  let access ← eatModifier ["public", "protected", "private"]
  let declares ← if early then pure true else eatWord "declare"
  if declares then
    if let some m ← named? G c d false "declare" then return m
  let accessor ← eatWord "accessor"
  if accessor then
    if let some m ← named? G c d true "accessor" then return m
  let static ← eatWord "static"
  if static then
    if let some m ← named? G c d false "static" then return m
  let words ← allThere (eatModifier ["abstract", "readonly", "override", "static"])
  let readOnly := words.contains "readonly"
  let late ← if accessor || readOnly || (← following).token = .punct "(" then pure false
    else eatWord "accessor"
  modified G c d ⟨static || words.contains "static", accessor || late, readOnly,
    access.isSome || words.contains "abstract" || words.contains "override"⟩

/-- The members of a class, in braces. -/
def body (G : Grammar) (c : Context) : Parse (List ClassMember) := do
  expect "\x7b"
  let ms ← several (return !(← atMark "\x7d")) do
    if ← eat ";" then pure none
    else if (← token) = .eof then fail .endOfText
    else return some (← member G c)
  expect "\x7d"
  pure (ms.filterMap id)

/-- What a class is built from, after the word that says so: a value, and what is written in the
type arguments behind it. -/
def superclass (G : Grammar) (c : Context) : Parse (Expr × List Expr) := do
  match ← G.operand c with
  | .compound .instantiation (e :: types) => pure (e, types)
  | e => do
    let types ← if ← atMark "<" then Types.arguments G else pure []
    pure (e, types)

/-- What a class is built from, and what is written in the types there.  The words that say so may
be repeated: the first superclass and the first list of types count. -/
def heritage (G : Grammar) (c : Context) : Parse (Option Expr × List Expr) := do
  let first ← if ← eatWord "extends" then do pure (some (← superclass G c)) else pure none
  if ← eatWord "extends" then
    let _ ← superclass G c
  let types ← if ← eatWord "implements" then Types.heritage G else pure []
  if ← eatWord "implements" then
    let _ ← Types.heritage G
  let built ← if ← eatWord "extends" then
      let other ← superclass G c
      pure (first <|> some other)
    else pure first
  pure (built.map Prod.fst, (built.map Prod.snd).getD [] ++ types)

/-- A class after its keyword: the name, if one is there or wanted, and the class. -/
def tail (G : Grammar) (needsName : Bool) (c : Context) (ds : List Expr) :
    Parse (Option String × ClassDef) := do
  let className ← if needsName then do pure (some (← bindingName true)) else bindingName? true
  let params ← Types.parameters G
  let (sup, types) ← heritage G c.inner
  let ms ← body G c.inner
  pure (className, .mk ds ms sup (params ++ types))

end PageConfig.Source.Classes
