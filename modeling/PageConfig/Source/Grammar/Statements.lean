import PageConfig.Source.Grammar.Expressions
import PageConfig.Source.Grammar.Items

/-!
# Statements

A statement is told by its first word, or else it is an expression.  Words that
declare something and may also be names are read as an expression first: what
follows such a name tells whether it declares something.  Statements whose
parts are only walked through become a `group` of them, in the order of the
walk.
-/

namespace PageConfig.Source.Statements

open Parse

/-- An expression in parentheses, after a keyword. -/
def condition (G : Grammar) (c : Context) : Parse Stmt := do
  expect "("
  let e ← G.expression c.inner
  expect ")"
  pure (.expr e)

/-! ### Variables -/

/-- How variables are declared. -/
structure Binder where
  /-- Whether `let` cannot name one. -/
  noLet : Bool
  /-- Whether a pattern may go without a value. -/
  bare : Bool
  /-- Whether they are declared in the head of a loop. -/
  inLoop : Bool

/-- The binder of a keyword. -/
def binderOf (w : String) (inLoop : Bool) : Binder :=
  ⟨w = "let" || w = "const", w = "const", inLoop⟩

/-- A variable with its type and value. -/
def declarator (G : Grammar) (c : Context) (b : Binder) : Parse Declarator := do
  let start := (← get).start
  let p ← G.declared c b.noLet
  if p.name.isSome then
    let _ ← eat "!"
  let types ← Types.annotation G
  let value ← if b.inLoop && ((← atWord "in") || (← atWord "of")) then pure none
    else do
      let value ← initial G c
      if value.isNone && p.name.isNone && !b.bare && !c.ambient then failAt .patternValue start
      pure value
  match p.name, types with
  | some w, [] => pure (.plain w value)
  | _, _ => pure (.pattern (p.parts ++ types) value)

/-- Variables separated by commas.  A semicolon may stand in the place of one. -/
def declarators (G : Grammar) (c : Context) (b : Binder) : Nat → Parse (List Declarator)
  | 0 => pure []
  | fuel + 1 => do
    if ← atMark ";" then pure []
    else
      let d ← declarator G c b
      if ← eat "," then return d :: (← declarators G c b fuel) else pure [d]

/-- Passes over tokens up to the next place where a statement may end. -/
def passOver : Nat → Parse Unit
  | 0 => pure ()
  | fuel + 1 => do
    if ← eatEnd then pure ()
    else
      advance
      match ← token with
      | .bad _ => pure ()
      | _ => passOver fuel

/-- The end of a declaration of variables.  What stands before it is passed over: an expression as
far as it can be read, then single tokens. -/
def endVariables (G : Grammar) (c : Context) : Parse Unit := do
  if ← eatEnd then pure ()
  else
    let _ ← asFarAs (G.expression c)
    passOver (← remaining)

/-- A declaration of variables, from its keyword on. -/
def variableStatement (G : Grammar) (c : Context) (w : String) : Parse Stmt := do
  advance
  let ds ← declarators G c (binderOf w false) (← remaining)
  endVariables G c
  pure (.vars ds)

/-- A declaration of variables that are closed at the end, after its keywords. -/
def usingStatement (G : Grammar) (c : Context) : Parse Stmt := do
  let ds ← declarators G c ⟨false, false, false⟩ (← remaining)
  endStatement
  pure (.group [.vars ds])

/-- Whether `let` at a cursor declares variables. -/
def opensLet (cur : Cursor) : Bool :=
  match cur.next.token with
  | .word w => !keywords.contains w || w = "let" || w = "yield" || w = "await"
  | .punct m => m = "[" || m = "\x7b"
  | _ => false

/-- Whether `using` at a cursor declares variables. -/
def opensUsing (cur : Cursor) : Bool :=
  cur.token = .word "using" && isName cur.next.token && !cur.next.broken

/-- The keyword of a declaration of variables at a cursor, if one is there. -/
def binderAt? (cur : Cursor) : Option String :=
  match cur.token with
  | .word w => if w = "var" || w = "const" || (w = "let" && opensLet cur) then some w else none
  | _ => none

/-! ### Loops -/

/-- The rest of the head of a loop with three parts, after its first semicolon. -/
def loopParts (G : Grammar) (c : Context) : Parse (List Stmt) := do
  let test ← if ← eat ";" then pure []
    else do
      let e ← G.expression c
      expect ";"
      pure [Stmt.expr e]
  let update ← if ← atMark ")" then pure [] else do pure [Stmt.expr (← G.expression c)]
  pure (test ++ update)

/-- The rest of the head of a loop, after what comes first in it; and whether it goes over the
values of something. -/
def loopRest (G : Grammar) (c : Context) (first : List Stmt) : Parse (Bool × List Stmt) := do
  if ← eatWord "of" then return (true, first ++ [.expr (← G.assignment c)])
  else if ← eatWord "in" then return (false, first ++ [.expr (← G.expression c)])
  else
    expect ";"
    return (false, first ++ (← loopParts G c))

/-- Variables in the head of a loop.  The name may be missing. -/
def loopVariables (G : Grammar) (c : Context) (w : String) : Parse Stmt := do
  advance
  let nameless := do
    if ← eatWord "of" then pure () else expectWord "in"
    let _ ← G.assignment c.inner
    expect ")"
  match nameless (← get) with
  | .ok _ _ => pure (.vars [])
  | .error _ _ =>
    let inside := { c.inner with noIn := w = "var" }
    return .vars (← declarators G inside (binderOf w true) (← remaining))

/-- Whether an expression in the head of a loop is the keyword of a declaration. -/
def isUsing : Expr → Bool
  | .ident w => w = "using"
  | .compound .awaited [.ident w] => w = "using"
  | _ => false

/-- The expressions of the head of a loop that assigns to an expression. -/
def loopTarget (e : Expr) : Parse (List Expr) := do
  match e with
  | .object _ => Expressions.asPattern .assigned e
  | .array _ => Expressions.asPattern .assigned e
  | _ => pure [e]

/-- The head of a loop, in parentheses; and whether it goes over the values of something. -/
def loopHead (G : Grammar) (c : Context) : Parse (Bool × List Stmt) := do
  expect "("
  let inside := c.inner
  let head ← match binderAt? (← get) with
    | some w => do
      let s ← loopVariables G c w
      loopRest G inside [s]
    | none =>
      if ← eat ";" then do pure (false, ← loopParts G inside)
      else do
        let e ← G.expression { inside with noIn := true }
        let n := (← following).token
        if isUsing e && !(← atWord "of") && (n = .word "of" || n = .word "in") then
          let _ ← bindingName false
          loopRest G inside []
        else if (← atWord "of") || (← atWord "in") then
          loopRest G inside ((← loopTarget e).map Stmt.expr)
        else loopRest G inside [.expr e]
  expect ")"
  pure head

/-- A loop with a head, after its keyword. -/
def loop (G : Grammar) (c : Context) : Parse Stmt := do
  let place := (← get).start
  let awaits ← eatWord "await"
  let (isOf, head) ← loopHead G c
  let body ← G.body c
  if awaits && !isOf then failAt .awaitLoop place
  pure (.group (head ++ [body]))

/-! ### Branches and handlers -/

/-- A case of a switch: its test and its statements.  Only one case has no test. -/
def switchCase (G : Grammar) (c : Context) (hasDefault : Bool) : Parse (List Stmt) := do
  let test ← if ← eatWord "case" then do pure [Stmt.expr (← G.expression c.inner)]
    else do
      expectWord "default"
      if hasDefault then fail .twoDefaults
      pure []
  expect ":"
  let body ← several (do
      let t ← token
      pure (t ≠ .word "case" && t ≠ .word "default" && t ≠ .punct "\x7d" && t ≠ .eof))
    (G.statement c)
  pure (test ++ body)

/-- The cases of a switch. -/
def switchCases (G : Grammar) (c : Context) : Nat → Bool → Parse (List Stmt)
  | 0, _ => fail .exhausted
  | fuel + 1, hasDefault => do
    let isDefault ← atWord "default"
    if isDefault || (← atWord "case") then
      let first ← switchCase G c hasDefault
      return first ++ (← switchCases G c fuel (hasDefault || isDefault))
    else pure []

/-- A switch, after its keyword. -/
def switch (G : Grammar) (c : Context) : Parse Stmt := do
  let e ← condition G c
  expect "\x7b"
  let cases ← switchCases G c (← remaining) false
  expect "\x7d"
  pure (.group (e :: cases))

/-- The handler of a failure, if there is one. -/
def catchClause (G : Grammar) (c : Context) : Parse (List Stmt) := do
  if ← eatWord "catch" then
    let parts ← if ← eat "(" then do
        let p ← G.pattern c.inner
        let types ← Types.annotation G
        expect ")"
        pure (p.parts ++ types)
      else pure []
    return parts.map Stmt.expr ++ (← block G c)
  else pure []

/-- What is done in any case, if there is such a block. -/
def finallyClause (G : Grammar) (c : Context) : Parse (List Stmt) := do
  if ← eatWord "finally" then block G c else pure []

/-- A jump, after its keyword: a label may follow on the line. -/
def jump (c : Context) : Parse Stmt := do
  if ← eatEnd then pure (.group [])
  else
    let _ ← nameWith (!c.inGenerator)
    endStatement
    pure (.group [])

/-! ### Declarations -/

/-- A function declaration, after its keyword. -/
def functionDecl (G : Grammar) (c : Context) (inAsync : Bool) (ds : List Expr) : Parse Stmt := do
  let star ← eat "*"
  let _ ← bindingName false
  let f ← functionRest G (c.function inAsync star)
  pure (.functionDecl (f.parts ds))

/-- A class declaration, from its keyword on. -/
def classDecl (G : Grammar) (c : Context) (ds : List Expr) : Parse Stmt := do
  expectWord "class"
  return .classDecl (← Classes.tail G true c ds).2

/-- The name of a member of an enumeration. -/
def enumerator (G : Grammar) (c : Context) : Parse Unit := do
  wellCut
  match ← token with
  | .eof => fail .endOfText
  | .string _ => advance
  | .number _ => advance
  | .punct "[" => do
    advance
    let _ ← G.expression c.inner
    expect "]"
  | _ => let _ ← anyWord

/-- A member of an enumeration, and the comma after it.  Another token after its name is taken for
the comma. -/
def enumMember (G : Grammar) (c : Context) : Parse (Option Expr) := do
  enumerator G c
  let value ← initial G c.inner
  if value.isSome then
    let _ ← eat ","
  else if ← atMark "\x7d" then pure ()
  else advance
  pure value

/-- An enumeration, after its keyword: the values of its members. -/
def enumeration (G : Grammar) (c : Context) : Parse Stmt := do
  let _ ← anyWord
  expect "\x7b"
  let values ← several (return !(← atMark "\x7d")) (enumMember G c)
  expect "\x7d"
  pure (.group (values.filterMap fun v => v.map Stmt.expr))

/-- An interface, after its keyword. -/
def interface (G : Grammar) : Parse Stmt := do
  let _ ← anyWord
  let params ← Types.parameters G
  let bases ← if ← eatWord "extends" then Types.heritage G else pure []
  if ← atWord "extends" then
    let _ ← several (do
        let t ← token
        pure (t ≠ .eof && t ≠ .punct "\x7b")) advance
  let ms ← Types.members G
  pure (.group ((params ++ bases ++ ms).map Stmt.expr))

/-- A name for a type, after its keyword. -/
def typeAlias (G : Grammar) : Parse Stmt := do
  let _ ← anyWord
  let params ← Types.parameters G
  if ← eat "=" then pure () else unexpected "="
  let es ← G.type
  endStatement
  pure (.group ((params ++ es).map Stmt.expr))

/-- The items of a namespace, in braces.  The end of the text closes it as well. -/
def itemBlock (item : Parse Stmt) : Parse Stmt := do
  expect "\x7b"
  let body ← several (do
      let t ← token
      pure (t ≠ .punct "\x7d" && t ≠ .eof)) item
  let _ ← eat "\x7d"
  pure (.group body)

/-- A namespace, after its keyword, given what its items are. -/
def namespaceTail (item : Parse Stmt) : Parse Stmt := do
  let _ ← anyWord
  let _ ← several (eat ".") anyWord
  itemBlock item

/-- A module that is described from outside, by its name or as the global one: it may have no
body. -/
def ambientModule (item : Parse Stmt) : Parse Stmt := do
  advance
  if ← atMark "\x7b" then itemBlock item
  else
    endStatement
    pure (.group [])

/-- A module or a namespace, after its keyword, if one goes on here. -/
def moduleTail (item : Parse Stmt) (certain : Bool) : Parse (Option Stmt) := do
  wellCut
  match ← token with
  | .string _ => return some (← ambientModule item)
  | .eof => fail .endOfText
  | _ => if certain || (← atName) then return some (← namespaceTail item) else pure none

/-- A declaration after the word that tells it.  It is there if it goes on here, or if it is
`certain` that the word is no name: then the word is still the current token. -/
def declares (certain goesOn : Bool) (p : Parse Stmt) : Parse (Option Stmt) := do
  if certain then
    advance
    return some (← p)
  else if goesOn then return some (← p)
  else pure none

/-- What a word declares that may also be a name, if it declares something.  The word has been read,
unless it is `certain` that it is no name: then it is the current token. -/
def contextual (G : Grammar) (c : Context) (item : Parse Stmt) (ds : List Expr) (certain : Bool)
    (w : String) : Parse (Option Stmt) := do
  let cur ← get
  let named := isName cur.token
  match w with
  | "abstract" => declares certain (cur.token = .word "class" && !cur.broken) (classDecl G c ds)
  | "enum" => declares certain named (enumeration G c)
  | "interface" => declares certain named (interface G)
  | "namespace" => declares certain named (namespaceTail item)
  | "type" => declares certain (named && !cur.broken) (typeAlias G)
  | "module" =>
    if cur.broken then pure none
    else
      if certain then advance
      moduleTail item certain
  | _ => pure none

/-- What is declared to be defined elsewhere, after `declare`, if something is. -/
def ambient (G : Grammar) (c : Context) (item : Parse Stmt) (ds : List Expr) :
    Parse (Option Stmt) := do
  let cur ← get
  let c := { c with ambient := true }
  match cur.token with
  | .word "function" => do
    advance
    return some (← functionDecl G c false ds)
  | .word "class" => return some (← classDecl G c ds)
  | .word "global" => return some (← ambientModule item)
  | .word w =>
    if w = "const" && cur.next.token = .word "enum" then
      advance
      advance
      return some (← enumeration G c)
    else if w = "const" || w = "var" || w = "let" then return some (← variableStatement G c w)
    else contextual G c item ds true w
  | _ => pure none

/-! ### Statements -/

/-- What a name at the start of a statement declares, if it declares something. -/
def afterName (G : Grammar) (c : Context) (item : Context → Parse Stmt) (ds : List Expr)
    (w : String) : Parse (Option Stmt) := do
  if w = "declare" then ambient G c (item { c with ambient := true }) ds
  else if w = "global" then
    if ← atMark "\x7b" then return some (← itemBlock (item c)) else pure none
  else
    match ← contextual G c (item c) ds false w with
    | some s => pure (some s)
    | none => do
      let declares ← if w = "abstract" then eatWord "interface" else pure false
      if declares then return some (← interface G) else pure none

/-- The end of a statement that is an expression.  An operator goes on with it. -/
def endExpression (G : Grammar) (c : Context) (e : Expr) : Parse Stmt := do
  if ← eatEnd then pure (.expr e)
  else if Expressions.isMarkOperator (← token) then
    return .expr (← Expressions.operators G c 0 (← remaining) e)
  else fail .statementEnd

/-- An expression as a statement; a name may be a label or declare something instead. -/
def expressionStatement (G : Grammar) (c : Context) (item : Context → Parse Stmt)
    (ds : List Expr) : Parse Stmt := do
  let e ← G.expression c
  match e with
  | .ident w =>
    if ← eat ":" then
      if ← eatWord "function" then functionDecl G c false [] else return .group [← G.body c]
    else
      match ← afterName G c item ds w with
      | some s => pure s
      | none => endExpression G c e
  | _ => endExpression G c e

/-- A statement told by a word that also starts expressions. -/
def ambiguous (G : Grammar) (c : Context) (item : Context → Parse Stmt) (isBody : Bool)
    (ds : List Expr) (w : String) : Parse Stmt := do
  let cur ← get
  let n := cur.next
  if w = "const" && n.token = .word "enum" then
    advance
    advance
    enumeration G c
  else if !isBody && (w = "const" || (w = "let" && opensLet cur)) then variableStatement G c w
  else if !isBody && opensUsing cur then
    advance
    usingStatement G c
  else if !isBody && w = "await" && opensUsing n then
    advance
    advance
    usingStatement G c
  else if w = "async" && n.token = .word "function" && !n.broken then
    advance
    advance
    functionDecl G c true ds
  else if w = "interface" && isName n.token && !n.broken then
    advance
    interface G
  else if w = "enum" && (match n.token with
      | .word _ => true
      | _ => false) then
    advance
    enumeration G c
  else expressionStatement G c item ds

/-- An import that is an expression, as a statement. -/
def importExpression (G : Grammar) (c : Context) : Parse Stmt := do
  let n ← following
  if n.token = .punct "(" || n.token = .punct "." then
    let e ← G.expression c
    let _ ← eatEnd
    pure (.expr e)
  else fail .itemInside

/-- A statement told by a word. -/
def wordStatement (G : Grammar) (c : Context) (item : Context → Parse Stmt) (isBody : Bool)
    (ds : List Expr) (w : String) : Parse Stmt := do
  match w with
  | "var" => variableStatement G c w
  | "import" => importExpression G c
  | "export" => fail .itemInside
  | "function" => do
    advance
    functionDecl G c false ds
  | "class" => classDecl G c ds
  | "if" => do
    advance
    let test ← condition G c
    let yes ← G.body c
    let no ← if ← eatWord "else" then do pure [← G.body c] else pure []
    pure (.group (test :: yes :: no))
  | "for" => do
    advance
    loop G c
  | "while" => do
    advance
    let test ← condition G c
    let body ← G.body c
    pure (.group [test, body])
  | "do" => do
    advance
    let body ← G.body c
    expectWord "while"
    let test ← condition G c
    let _ ← eatEnd
    pure (.group [test, body])
  | "switch" => do
    advance
    switch G c
  | "try" => do
    advance
    let body ← block G c
    let caught ← catchClause G c
    let last ← finallyClause G c
    pure (.group (body ++ caught ++ last))
  | "catch" => do
    let _ ← asFarAs (catchClause G c)
    let _ ← asFarAs (finallyClause G c)
    pure (.expr Expressions.invalid)
  | "finally" => do
    let _ ← asFarAs (finallyClause G c)
    pure (.expr Expressions.invalid)
  | "throw" => do
    advance
    if (← get).broken then fail .breakAfterThrow
    let e ← G.expression c
    endStatement
    pure (.group [.expr e])
  | "return" => do
    advance
    let e ← if ← atStatementEnd then pure [] else do pure [Stmt.expr (← G.expression c)]
    endStatement
    pure (.group e)
  | "break" => do
    advance
    jump c
  | "continue" => do
    advance
    jump c
  | "debugger" => do
    advance
    endStatement
    pure (.group [])
  | "with" => do
    advance
    let e ← condition G c
    let body ← G.body c
    pure (.group [e, body])
  | _ => ambiguous G c item isBody ds w

/-- A statement, after the decorators in front of it.  They belong to a class or a function. -/
def undecorated (G : Grammar) (c : Context) (item : Context → Parse Stmt) (isBody : Bool)
    (ds : List Expr) : Parse Stmt := do
  match ← token with
  | .punct ";" => do
    advance
    pure (.group [])
  | .punct "\x7b" => return .group (← block G c)
  | .word w => wordStatement G c item isBody ds w
  | _ => expressionStatement G c item ds

/-! ### Exports -/

/-- The decorators after `export`, which stand there only if none stand before it. -/
def exportDecorators (G : Grammar) (c : Context) (ds : List Expr) : Parse (List Expr) := do
  let start := (← get).start
  if ← atMark "@" then
    let after ← decorators G c
    if ds.isEmpty then pure after else failAt .exportDecorators start
  else pure ds

/-- A function as the default export, after its keyword. -/
def defaultFunction (G : Grammar) (c : Context) (inAsync : Bool) (ds : List Expr) : Parse Stmt := do
  let star ← eat "*"
  let functionName ← bindingName? false
  let f ← functionRest G (c.function inAsync star)
  pure (.exportDecl functionName (.functionDecl (f.parts ds)))

/-- A class as the default export, from its keyword on. -/
def defaultClass (G : Grammar) (c : Context) (ds : List Expr) : Parse Stmt := do
  expectWord "class"
  let (className, body) ← Classes.tail G false c ds
  pure (.exportDecl className (.classDecl body))

/-- The default export, after `default`. -/
def exportDefault (G : Grammar) (c : Context) (ds : List Expr) : Parse Stmt := do
  let ds ← exportDecorators G c ds
  let cur ← get
  let n := cur.next
  let isAbstract := cur.token = .word "abstract"
  if isAbstract && n.token = .word "class" && !n.broken then
    advance
    defaultClass G c ds
  else if cur.token = .word "interface" then
    advance
    interface G
  else if isAbstract && n.token = .word "interface" then
    advance
    advance
    interface G
  else if cur.token = .word "class" then defaultClass G c ds
  else if cur.token = .word "async" && n.token = .word "function" && !n.broken then
    advance
    advance
    defaultFunction G c true ds
  else if cur.token = .word "function" then
    advance
    defaultFunction G c false ds
  else
    let e ← G.assignment c
    endStatement
    pure (.exportExpr e)

/-- A declaration after `export`, or names. -/
def exportRest (G : Grammar) (c : Context) (ds : List Expr) (typeOnly : Bool) : Parse Stmt := do
  let ds ← exportDecorators G c ds
  let cur ← get
  let n := cur.next
  match typeOnly, cur.token with
  | false, .word "class" => return .exported (← classDecl G c ds)
  | false, .word "function" => do
    advance
    return .exported (← functionDecl G c false ds)
  | false, .word w =>
    if w = "async" && n.token = .word "function" && !n.broken then
      advance
      advance
      return .exported (← functionDecl G c true ds)
    else if w = "const" && n.token = .word "enum" then
      advance
      advance
      return .exported (← enumeration G c)
    else
      match binderAt? cur with
      | some w => return .exported (← variableStatement G c w)
      | none => Items.exportEntries G c
  | _, .punct "*" => Items.exportAll G c
  | _, _ => Items.exportEntries G c

/-- A declaration after `export` that is told by a word that may also be a name, if it is one. -/
def exportContextual (G : Grammar) (c : Context) (item : Parse Stmt) (ds : List Expr) :
    Parse (Option Stmt) := do
  match ← token with
  | .word w =>
    attempt do
      match ← contextual G c item ds true w with
      | some s => pure s
      | none => fail .expressionExpected
  | _ => pure none

/-- An export, after its keyword and the declarations told by words that may be names. -/
def exportPlain (G : Grammar) (c : Context) (ds : List Expr) : Parse Stmt := do
  if ← eatWord "import" then
    if (← atWord "type") && isName (← following).token then advance
    let _ ← anyWord
    Items.aliasOf
  else if ← eat "=" then
    let e ← G.expression c
    endStatement
    pure (.group [.expr e])
  else if ← eatWord "as" then Items.exportNamespace
  else
    let typeOnly ← eatWord "type"
    let isDefault ← if typeOnly then pure false else eatWord "default"
    if isDefault then exportDefault G c ds
    else exportRest G c ds typeOnly

/-- An export, after its keyword and the decorators in front of it. -/
def exportTail (G : Grammar) (c : Context) (item : Context → Parse Stmt) (ds : List Expr) :
    Parse Stmt := do
  if (← token) = .eof then fail .endOfText
  let early ← if ← eatWord "declare" then ambient G c (item { c with ambient := true }) ds
    else pure none
  match early with
  | some s => pure (.exported s)
  | none =>
    match ← exportContextual G c (item c) ds with
    | some s => pure (.exported s)
    | none => exportPlain G c ds

/-! ### Items -/

/-- An item of a module, of which namespaces nest at most so deep. -/
def itemWithin (G : Grammar) : Nat → Context → Parse Stmt
  | 0, _ => fail .exhausted
  | depth + 1, c => do
    let ds ← decorators G c
    let n ← following
    match ← token with
    | .word "import" =>
      if n.token = .punct "(" || n.token = .punct "." then importExpression G c
      else do
        advance
        Items.importTail G c
    | .word "export" => do
      advance
      exportTail G c (itemWithin G depth) ds
    | _ => undecorated G c (itemWithin G depth) false ds

/-- An item of a module. -/
def item (G : Grammar) (c : Context) : Parse Stmt := do
  itemWithin G (← remaining) c

/-- A statement; the body of another one does not declare variables of its own. -/
def statement (G : Grammar) (c : Context) (isBody : Bool) : Parse Stmt := do
  let ds ← decorators G c
  undecorated G c (item G) isBody ds

end PageConfig.Source.Statements
