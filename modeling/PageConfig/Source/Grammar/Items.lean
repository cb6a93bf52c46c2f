import PageConfig.Source.Grammar.Functions

/-!
# Imports and exports

The clauses of the items that join a module to others.  Declarations after
`export` are read as the statements they are, elsewhere.
-/

namespace PageConfig.Source.Items

open Parse

/-- The module that names come from. -/
def origin : Parse String := do
  match ← token with
  | .string s => do advance; pure s
  | _ => unexpected "a string literal"

/-- The attributes of an import on its line. -/
def attributes (G : Grammar) (c : Context) : Parse (List Expr) := do
  let cur ← get
  if (cur.token = .word "with" || cur.token = .word "assert") && !cur.broken then
    advance
    if ← atMark "\x7b" then return [← G.operand c.inner] else missing "\x7b"
  else pure []

/-- `from` and what follows it: the module and its attributes. -/
def fromModule (G : Grammar) (c : Context) : Parse (String × List Expr) := do
  expectWord "from"
  let source ← origin
  let attrs ← attributes G c
  endStatement
  pure (source, attrs)

/-! ### Names in braces -/

/-- A name in braces: a word, or text in quotes. -/
inductive Listed where
  | word (name : String)
  | text (value : String)
deriving DecidableEq, Inhabited

/-- A name in braces. -/
def listed : Parse Listed := do
  match ← token with
  | .word w => do advance; pure (.word w)
  | .string s => do advance; pure (.text s)
  | _ => unexpected "identifier or string"

/-- Whether the current token is a word. -/
def atAnyWord : Parse Bool := do
  match ← token with
  | .word _ => pure true
  | _ => pure false

/-- Whether the current token is text in quotes. -/
def atText : Parse Bool := do
  match ← token with
  | .string _ => pure true
  | _ => pure false

/-- An entry in braces: a name with its place, the name after `as` if there is one, and whether the
entry is about a type only. -/
structure Entry where
  source : Listed
  place : List Char
  renamed : Option Listed
  typeOnly : Bool

/-- The new name after `as`, if there is one. -/
def newName (target : Parse Listed) : Parse (Option Listed) := do
  if ← eatWord "as" then return some (← target) else pure none

/-- An entry in braces, given what may stand after `as`.  `type` in front makes it one about a
type, unless `type` is the name itself; and the same holds of `as`. -/
def entry (target : Parse Listed) : Parse Entry := do
  let place := (← get).start
  let first ← listed
  if first = .word "type" && (← atText) then
    let place := (← get).start
    let second ← listed
    return ⟨second, place, ← newName target, true⟩
  else if first = .word "type" && (← atAnyWord) then
    let inner := (← get).start
    let second ← anyWord
    if second ≠ "as" then
      return ⟨.word second, inner, ← newName target, true⟩
    else if !(← atAnyWord) then
      return ⟨.word second, inner, none, true⟩
    else
      let third ← target
      if third = .word "as" && (← atAnyWord) then
        return ⟨.word second, inner, some (← target), true⟩
      else
        return ⟨first, place, some third, false⟩
  else
    return ⟨first, place, ← newName target, false⟩

/-- Entries in braces. -/
def entries (item : Parse Entry) : Parse (List Entry) := do
  expect "\x7b"
  listUntil "\x7d" item

/-! ### Imports -/

/-- An entry of an import, which has to bind a name. -/
def importEntry : Parse Entry := do
  let e ← entry (return .word (← bindingName false))
  match e.renamed, e.source with
  | none, .text s => failAt (.textImport s) e.place
  | _, _ => pure e

/-- A name that an import binds, and whether it is marked as the name of a type. -/
structure Specifier where
  binding : Binding
  typeOnly : Bool
deriving DecidableEq, Inhabited

/-- The name that an entry of an import binds. -/
def Entry.specifier? (e : Entry) : Option Specifier :=
  match e.renamed.getD e.source with
  | .word w => some ⟨⟨false, w⟩, e.typeOnly⟩
  | .text _ => none

/-- An import of names from a module.  If the import itself is marked as one of types, all its names
are names of types. -/
def importOf (typeOnly : Bool) (specifiers : List Specifier) (source : String) : Stmt :=
  .imports ((specifiers.filter fun s => !(typeOnly || s.typeOnly)).map Specifier.binding) source
    ((specifiers.filter fun s => typeOnly || s.typeOnly).map Specifier.binding)

/-- When the module of an import is run. -/
inductive Phase where
  | evaluation
  | source
  | defer
deriving DecidableEq

/-- What an import starts with, up to the names in braces. -/
structure ImportHead where
  typeOnly : Bool
  phase : Phase
  /-- The name of the default, if it is bound. -/
  name : Option String
  /-- Whether more names may follow the first. -/
  more : Bool

/-- Whether a name goes on here that is not the word before the module. -/
def atOtherName : Parse Bool := do
  pure ((← atName) && (!(← atWord "from") || (← following).token = .word "from"))

/-- The rest of the head of an import, after a word that may say what kind of import it is. -/
def importKind (w : String) : Parse ImportHead := do
  let listFollows ← atMarks ["\x7b", "*"]
  if w = "type" then
    if listFollows then pure ⟨true, .evaluation, none, true⟩
    else if ← atOtherName then return ⟨true, .evaluation, some (← bindingName false), false⟩
    else if (← atWord "from") && (← following).token = .punct "=" then
      return ⟨true, .evaluation, some (← anyWord), false⟩
    else pure ⟨false, .evaluation, some w, false⟩
  else if w = "source" then
    if listFollows then pure ⟨false, .source, none, true⟩
    else if ← atOtherName then return ⟨false, .source, some (← bindingName false), false⟩
    else pure ⟨false, .evaluation, some w, false⟩
  else if w = "defer" then
    if listFollows || (← atOtherName) then pure ⟨false, .defer, none, true⟩
    else pure ⟨false, .evaluation, some w, false⟩
  else pure ⟨false, .evaluation, some w, false⟩

/-- The head of an import. -/
def importHead : Parse ImportHead := do
  if ← atName then importKind (← bindingName false) else pure ⟨false, .evaluation, none, true⟩

/-- All names of a module under one, or names in braces.  A module that is not run at once has no
names in braces, and one that is not run at all has no names. -/
def namedSpecifiers (phase : Phase) : Parse (List Specifier) := do
  let all ← if phase = .source then pure false else eat "*"
  if all then
    expectWord "as"
    return [⟨⟨false, ← bindingName false⟩, false⟩]
  else if phase = .evaluation && (← atMark "\x7b") then
    return (← entries importEntry).filterMap Entry.specifier?
  else pure []

/-- A name given to a module or to a part of another name, after the name. -/
def aliasOf : Parse Stmt := do
  expect "="
  let cur ← get
  if cur.token = .word "require" && cur.next.token = .punct "(" then
    advance
    advance
    let _ ← origin
    expect ")"
  else Types.entity false
  endStatement
  pure (.group [])

/-- An import, after its keyword.  The walk does not go into its attributes. -/
def importTail (G : Grammar) (c : Context) : Parse Stmt := do
  match ← token with
  | .string s => do
    advance
    let _ ← attributes G c
    let _ ← eatEnd
    pure (.imports [] s)
  | _ => do
    let h ← importHead
    if h.name.isSome && (← atMark "=") then aliasOf
    else
      if !h.more && !(← atWord "from") then expect ","
      let more ← namedSpecifiers h.phase
      let (source, _) ← fromModule G c
      let first := h.name.toList.map fun w => Specifier.mk ⟨true, w⟩ false
      pure (importOf h.typeOnly (first ++ more) source)

/-! ### Exports -/

/-- The name an entry of an export makes the default of the module. -/
def Entry.default? (e : Entry) : Option String :=
  match e.source, e.renamed with
  | .word w, some (.word "default") => some w
  | _, _ => none

/-- Names exported in braces, from this module or from another.  The walk does not go into what is
exported by name. -/
def exportEntries (G : Grammar) (c : Context) : Parse Stmt := do
  let es ← entries (entry listed)
  if ← atWord "from" then
    let _ ← fromModule G c
    pure (.group [])
  else
    let _ ← eatEnd
    pure (.exportNames (es.filterMap Entry.default?))

/-- Everything exported from another module, or all of it under one name.  Without a name the walk
goes into the attributes. -/
def exportAll (G : Grammar) (c : Context) : Parse Stmt := do
  expect "*"
  let renamed ← eatWord "as"
  if renamed then
    let _ ← listed
  let (_, attrs) ← fromModule G c
  pure (.group (if renamed then [] else attrs.map Stmt.expr))

/-- The name by which a module is known where there are no modules, after `as`. -/
def exportNamespace : Parse Stmt := do
  expectWord "namespace"
  let _ ← nameWith false
  endStatement
  pure (.group [])

end PageConfig.Source.Items
