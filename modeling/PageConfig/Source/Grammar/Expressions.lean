import PageConfig.Source.Grammar.Classes
import PageConfig.Source.Grammar.Elements

/-!
# Expressions

From the loosest form to the tightest: sequences, assignments, conditionals,
operators, prefixes, chains of members and calls, and the forms that stand on
their own.

An arrow function can only stand where an assignment can start.  What is in
parentheses is read once, as expressions and as far as needed as patterns, and
the mark after it tells whether it was the head of a function.  An arrow
function is never the start of a longer expression.
-/

namespace PageConfig.Source.Expressions

open Parse

/-- Whether an expression is an arrow function. -/
def isArrow : Expr → Bool
  | .function true _ _ => true
  | _ => false

/-- What stands for an expression that could not be read. -/
def invalid : Expr := .compound .invalid []

/-! ### Operators and their levels -/

/-- How tightly an operator binds. -/
def level? (c : Context) : Token → Option Nat
  | .punct m =>
    if m = "??" || m = "||" then some 1
    else if m = "&&" then some 2
    else if m = "|" then some 3
    else if m = "^" then some 4
    else if m = "&" then some 5
    else if ["==", "!=", "===", "!=="].contains m then some 6
    else if ["<", ">", "<=", ">="].contains m then some 7
    else if ["<<", ">>", ">>>"].contains m then some 8
    else if m = "+" || m = "-" then some 9
    else if ["*", "/", "%"].contains m then some 10
    else if m = "**" then some 11
    else none
  | .word w =>
    if w = "instanceof" || (w = "in" && !c.noIn) then some 7 else none
  | _ => none

/-- Whether a token is an operator between operands that is no word. -/
def isMarkOperator : Token → Bool
  | .punct m => (level? Context.top (.punct m)).isSome
  | _ => false

/-- Operators that assign. -/
def assigners : List String :=
  ["=", "+=", "-=", "*=", "/=", "%=", "**=", "<<=", ">>=", ">>>=", "&=", "|=", "^=", "&&=", "||=",
   "??="]

/-- Whether the `**` after an expression would be ambiguous. -/
def refusesPower : Expr → Bool
  | .unary _ _ | .compound .awaited _ => true
  | _ => false

/-- Operators and operands after a first operand. -/
def operators (G : Grammar) (c : Context) (level : Nat) : Nat → Expr → Parse Expr
  | 0, e => pure e
  | fuel + 1, e => do
    let cur ← get
    if cur.token = .word "as" && !cur.broken && level < 7 then
      advance
      if ← eatWord "const" then operators G c level fuel (.wrapped .constCast e)
      else
        let types ← G.type
        operators G c level fuel (.wrapped (.cast types) e)
    else if cur.token = .word "satisfies" && !cur.broken then
      advance
      let types ← G.type
      operators G c level fuel (.wrapped (.satisfies types) e)
    else match level? c cur.token with
      | some l =>
        if l > level then
          advance
          if l = 11 && refusesPower e then fail .unaryPower
          let right ← G.operation c (if l = 11 then 10 else l)
          operators G c level fuel (.compound .binary [e, right])
        else pure e
      | none => pure e

/-- The first of some operands.  Where an operator stands in its place it may be missing. -/
def firstOperand (G : Grammar) (c : Context) : Parse Expr := fun s =>
  match G.unary c s with
  | .ok e s' => .ok e s'
  | .error f s' => if (level? c s'.token).isSome then .ok invalid s' else .error f s'

/-- Operands joined by operators that bind tighter than a level. -/
def operation (G : Grammar) (c : Context) (level : Nat) : Parse Expr := do
  let e ← if level = 0 then firstOperand G c else G.unary c.onward
  if level = 0 && isArrow e then pure e
  else operators G c.onward level (← remaining) e

/-- The two branches of a choice, after its mark. -/
def branches (G : Grammar) (c : Context) (test : Expr) : Parse Expr := do
  let yes ← G.assignment { c with noIn := false, colonAhead := true }
  expect ":"
  let no ← G.assignment { c with colonAhead := false }
  pure (.compound .conditional [test, yes, no])

/-- An operation or a choice between two expressions. -/
def conditional (G : Grammar) (c : Context) : Parse Expr := do
  let test ← G.operation c 0
  if isArrow test then pure test
  else if ← eat "?" then branches G c.onward test
  else pure test

/-! ### Assignments -/

/-- The expressions of an expression taken as a pattern. -/
def asPattern (role : Patterns.Role) (e : Expr) : Parse (List Expr) :=
  match Patterns.parts role e with
  | .ok ps => pure ps
  | .error place => failAt .notPattern place

/-- Whether an expression can be assigned to, other than as a pattern. -/
def isTarget : Expr → Bool
  | .ident _ | .member _ _ => true
  | .wrapped .constCast _ => false
  | .wrapped _ _ => true
  | .compound .superMember _ | .compound .chain _ | .compound .instantiation _
  | .compound .invalid _ => true
  | _ => false

/-- What is assigned to; objects and arrays are patterns if the assignment is plain. -/
def targetOf (plain : Bool) (start : List Char) (e : Expr) : Parse Expr := do
  match plain, e with
  | true, .object _ => return .compound .pattern (← asPattern .assigned e)
  | true, .array _ => return .compound .pattern (← asPattern .assigned e)
  | _, _ => if isTarget e then pure e else failAt .badTarget start

/-- The rest of an assignment, if the expression before starts one. -/
def finishAssignment (G : Grammar) (c : Context) (start : List Char) (e : Expr) : Parse Expr := do
  match ← token with
  | .punct m =>
    if assigners.contains m then
      let target ← targetOf (m = "=") start e
      advance
      return .assign (m = "=") target (← G.assignment c)
    else pure e
  | _ => pure e

/-! ### Objects and arrays -/

/-- A method of an object literal, after its key.  Nobody sees the parameters of a getter, nor more
than two of a setter, and of their types only the result of a getter. -/
def method (G : Grammar) (c : Context) (kind : MethodKind) (place : List Char)
    (inAsync inGenerator : Bool) (k : Key) : Parse Member := do
  let f ← functionRest G (c.function inAsync inGenerator)
  let body := f.body.getD []
  match kind with
  | .method => pure (.method kind k (f.parts []) place)
  | .getter => pure (.method kind k (f.result.map Stmt.expr ++ body) place)
  | .setter =>
    pure (.method kind k (((f.parameters.take 2).flatMap (·.parts)).map Stmt.expr ++ body) place)

/-- Whether a token can go on with a member after its key. -/
def continuesMember (k : Key) : Token → Bool
  | .word _ | .string _ | .number _ => true
  | .punct m =>
    ["(", "[", ":", ",", "?", "=", "*", "<"].contains m || (m = "\x7d" && match k with
      | .name _ => true
      | _ => false)
  | _ => false

/-- What is wanted after the name of a member. -/
def wantedAfterName : String :=
  "... , *,  (, [, :, , ?, =, an identifier, public, protected, private, readonly, <."

/-- A member of an object literal, after a name that is no key of a pair or a method. -/
def namedMember (G : Grammar) (c : Context) (start : List Char) (w : String) : Parse Member := do
  let _ ← eat "?"
  if ← eat "=" then return .shorthandDefault w (← G.assignment c.inner)
  else if ← atMarks [",", "\x7d"] then pure (.shorthand w)
  else
    match w with
    | "get" => do
      let k ← key G c
      method G c .getter start false false k
    | "set" => do
      let k ← key G c
      method G c .setter start false false k
    | "async" => do
      let star ← eat "*"
      let place := (← get).start
      let k ← key G c
      method G c .method place true star k
    | _ => unexpected wantedAfterName

/-- A member of an object literal. -/
def objectMember (G : Grammar) (c : Context) : Parse Member := do
  let start := (← get).start
  if ← eat "..." then return .spread (← G.assignment c.inner)
  else if ← eat "*" then
    let place := (← get).start
    let k ← key G c
    method G c .method place false true k
  else
    eatAccess
    let place := (← get).start
    let k ← key G c
    if !continuesMember k (← token) then pure (.pair k invalid)
    else if ← eat ":" then return .pair k (← G.assignment c.inner)
    else if ← atMarks ["(", "<"] then method G c .method place false false k
    else
      match k with
      | .name w => namedMember G c start w
      | _ => unexpected "identifier"

/-- A place in an array literal. -/
def slot (G : Grammar) (c : Context) : Parse Slot := do
  if ← atMark "," then pure .hole
  else if ← eat "..." then return .spread (← G.assignment c.inner)
  else return .item (← G.assignment c.inner)

/-! ### Arrow functions and parentheses -/

/-- The body of an arrow function, and whether it is a block. -/
def arrowBody (G : Grammar) (c : Context) (inAsync : Bool) : Parse (Bool × List Stmt) := do
  if ← atMark "\x7b" then return (true, ← block G (c.function inAsync false))
  else
    let e ← G.assignment { c with inAsync := inAsync, inGenerator := false }
    pure (false, [.expr e])

/-- An arrow function, after its arrow, given what is written in its result type. -/
def arrow (G : Grammar) (c : Context) (inAsync : Bool) (params result : List Expr) :
    Parse Expr := do
  let (_, body) ← arrowBody G c inAsync
  pure (.function true (params.map Stmt.expr ++ body) result)

/-- An arrow function with what is written in its type parameters. -/
def withTypeParameters (types : List Expr) : Expr → Expr
  | .function true parts result => .function true (parts ++ types.map Stmt.expr) result
  | e => e

/-- An item in parentheses, which may turn out to be a parameter. -/
inductive Item where
  /-- An expression, with the text from it on. -/
  | expr (isSpread : Bool) (place : List Char) (e : Expr)
  /-- What can only be a parameter. -/
  | pattern (isRest isName : Bool) (parts : List Expr)

/-- Whether an item can only be a parameter. -/
def Item.isPattern : Item → Bool
  | .pattern _ _ _ => true
  | .expr _ _ _ => false

/-- The expression that an item is, unless it can only be a parameter. -/
def Item.expr? : Item → Option Expr
  | .expr _ _ e => some e
  | .pattern _ _ _ => none

/-- Whether an item is a bare name. -/
def Item.isName : Item → Bool
  | .pattern _ isName _ => isName
  | .expr _ _ (.ident _) => true
  | .expr _ _ _ => false

/-- The expressions of items taken as parameters.  Only the last can stand for all that are left. -/
def parameterParts : List Item → Except (List Char) (List Expr)
  | [] => pure []
  | [.expr _ _ e] => Patterns.parts .bound e
  | [.pattern _ _ ps] => pure ps
  | .expr true _ _ :: rest => parameterParts rest
  | .pattern true _ _ :: rest => parameterParts rest
  | .expr false _ e :: rest => do
    let first ← Patterns.parts .bound e
    let more ← parameterParts rest
    pure (first ++ more)
  | .pattern false _ ps :: rest => do
    let more ← parameterParts rest
    pure (ps ++ more)

/-- The expressions of items taken as parameters. -/
def asParameters (items : List Item) : Parse (List Expr) :=
  match parameterParts items with
  | .ok ps => pure ps
  | .error place => failAt .notPattern place

/-- An item in parentheses as far as it is an expression: whether it is spread, the text from the
expression on, and the expression.  The mark after a name may be one of a parameter, so it is not
yet read as one of a condition. -/
def itemExpr (G : Grammar) (c : Context) (modified : Bool) :
    Parse (Bool × List Char × Expr) := do
  let cur ← get
  if Parse.isName cur.token then
    let e ← G.operation { c with arrowHere := !modified } 0
    return (false, cur.start, ← finishAssignment G c cur.start e)
  else if cur.token = .punct "..." then
    advance
    let place := (← get).start
    let e ← if ← atName then G.operation c 0 else G.assignment c
    pure (true, place, e)
  else return (false, cur.start, ← G.assignment c)

/-- Whether a type can stand after an expression taken as a pattern. -/
def takesType : Expr → Bool
  | .ident _ | .array _ | .object _ => true
  | _ => false

/-- An item that can only be a parameter, from its type on. -/
def patternItem (G : Grammar) (c : Context) (isSpread : Bool) (e : Expr) : Parse Item := do
  let parts ← asPattern .bound e
  let types ← if isSpread || takesType e then Types.annotation G else pure []
  let d ← initial G c
  let bare := match e with
    | .ident _ => !isSpread && d.isNone
    | _ => false
  pure (.pattern (isSpread && d.isNone) bare (parts ++ types ++ d.toList))

/-- An item in parentheses. -/
def parenItem (G : Grammar) (c : Context) : Parse Item := do
  let start := (← get).start
  eatAccess
  let first := (← get).start
  let (isSpread, place, e) ← itemExpr G c (first.length < start.length)
  if ← atMark "?" then
    let n ← following
    if [Token.punct ",", .punct "=", .punct ")", .punct ":"].contains n.token then
      advance
      match e with
      | .ident _ => patternItem G c isSpread e
      | _ => failAt .optionalPattern first
    else if isSpread then pure (.expr isSpread place e)
    else
      advance
      let e ← branches G c e
      if ← atMark ":" then patternItem G c isSpread e else pure (.expr isSpread place e)
  else if ← atMark ":" then patternItem G c isSpread e
  else pure (.expr isSpread place e)

/-- Items up to the closing parenthesis, which is left.  An arrow after an item belongs to a
function of the items so far, if they start with a name. -/
def parenItems (G : Grammar) (c : Context) : Nat → List Item → Parse (List Item)
  | 0, _ => fail .exhausted
  | fuel + 1, before => do
    if ← atMark ")" then pure before
    else
      let start := (← get).start
      let items := before ++ [← parenItem G c]
      let items ← if ← eat "=>" then
          if (items.head?.map Item.isName).getD false then do
            let e ← arrow G c false (← asParameters items) []
            pure (items ++ [.expr false start e])
          else pure items
        else pure items
      if ← atMark ")" then pure () else expect ","
      parenItems G c fuel items

/-- An arrow function with a result type, after its parameters, where the colon of a conditional is
still to come. -/
def typedArrow (G : Grammar) (c : Context) (inAsync : Bool) (items : List Item) : Parse Expr := do
  expect ":"
  let result ← Types.result G
  expect "=>"
  let e ← arrow G c inAsync (← asParameters items) result
  if ← atMark ":" then pure e else fail .expressionExpected

/-- A result type that an arrow follows. -/
def resultBeforeArrow (G : Grammar) : Parse (List Expr) := do
  expect ":"
  let result ← Types.result G
  if ← atMark "=>" then pure result else fail .expressionExpected

/-- An arrow function after its parameters and its result type.  One that ends with a block may be
followed by an operator nevertheless. -/
def arrowAfter (G : Grammar) (c : Context) (inAsync : Bool) (start : List Char)
    (items : List Item) (result : List Expr) : Parse Expr := do
  if (← get).broken then failAt .breakBeforeArrow start
  if !c.arrowHere then failAt .arrowNotAllowed start
  expect "=>"
  let params ← asParameters items
  let (isBlock, body) ← arrowBody G c.onward inAsync
  let e := Expr.function true (params.map Stmt.expr ++ body) result
  if isBlock && isMarkOperator (← token) then operators G c.onward 0 (← remaining) e
  else pure e

/-- The expression that items in parentheses are.  None of them is spread. -/
def grouped (start : List Char) (items : List Item) : Parse Expr := do
  let spread? := items.findSome? fun i => match i with
    | .expr true place _ => some place
    | _ => none
  match spread?, items.filterMap Item.expr? with
  | some place, _ => failAt .spreadInParens place
  | none, [] => failAt .emptyParens start
  | none, [e] => pure (.wrapped .parens e)
  | none, es => pure (.wrapped .parens (.compound .other es))

/-- What starts with a parenthesis: an expression, or an arrow function.  After `async`, of which
the place is given, it is a call or an arrow function. -/
def parenthesized (G : Grammar) (c : Context) (async? : Option (List Char)) : Parse Expr := do
  let start := async?.getD (← get).start
  expect "("
  let items ← parenItems G c.inner (← remaining) []
  expect ")"
  let colon ← atMark ":"
  let early ← if c.colonAhead && colon then attempt (typedArrow G c.onward async?.isSome items)
    else pure none
  match early with
  | some e => pure e
  | none =>
    let typed ← if !c.colonAhead && colon then attempt (resultBeforeArrow G) else pure none
    if items.any Item.isPattern || typed.isSome || (← atMark "=>") then
      arrowAfter G c async?.isSome start items (typed.getD [])
    else if async?.isSome then pure (.compound .call (.ident "async" :: items.filterMap Item.expr?))
    else grouped start items

/-! ### Forms that stand on their own -/

/-- A function expression after its keyword. -/
def functionExpr (G : Grammar) (c : Context) (inAsync : Bool) : Parse Expr := do
  let star ← eat "*"
  let _ ← bindingName? false
  let f ← functionRest G (c.function inAsync star)
  if f.body.isNone then unexpected "\x7b"
  pure (.function false (f.parts []) [])

/-- An arrow function with type parameters, after `async`, up to its arrow. -/
def genericHead (G : Grammar) (c : Context) : Parse FunctionRest := do
  advance
  let types ← Types.parameters G
  expect "("
  let ps ← G.parameters (c.function true false)
  expect ")"
  let result ← Types.resultAnnotation G
  expect "=>"
  pure ⟨ps, none, types, result⟩

/-- What starts with `async` and a name on its line: an arrow function.  A type follows `as`, and
the head of a loop goes on after `of`, unless an arrow comes next. -/
def asyncName (G : Grammar) (c : Context) : Parse Expr := do
  let cur ← get
  if c.noIn && cur.token = .word "of" && cur.next.token ≠ .punct "=>" then pure (.ident "async")
  else
    let w ← bindingName false
    if w = "as" && !(← atMark "=>") then
      let types ← G.type
      pure (.wrapped (.cast types) (.ident "async"))
    else
      expect "=>"
      arrow G c.onward true [] []

/-- A name, or an arrow function that starts with it. -/
def nameExpr (G : Grammar) (c : Context) (w : String) : Parse Expr := do
  advance
  let cur ← get
  if c.arrowHere && !cur.broken && w = "async" && Parse.isName cur.token then asyncName G c
  else if c.arrowHere && !cur.broken && cur.token = .punct "=>" then
    advance
    arrow G c.onward false [] []
  else pure (.ident w)

/-- What starts with `async`. -/
def asyncExpr (G : Grammar) (c : Context) : Parse Expr := do
  let cur ← get
  let n := cur.next
  if n.token = .word "function" && !n.broken then
    advance
    advance
    functionExpr G c true
  else
    let generic ← if c.arrowHere && n.token = .punct "<" then attempt (genericHead G c)
      else pure none
    match generic with
    | some f => do
      let e ← arrow G c.onward true (f.parameters.flatMap (·.parts)) f.result
      pure (withTypeParameters f.typeParameters e)
    | none =>
      if c.arrowHere && n.token = .punct "(" && !n.broken then
        advance
        parenthesized G c (some cur.start)
      else nameExpr G c "async"

/-- An expression that starts with a word. -/
def wordExpr (G : Grammar) (c : Context) (w : String) : Parse Expr := do
  match w with
  | "this" => do advance; pure (.compound .other [])
  | "null" => do advance; pure (.literal .null)
  | "true" => do advance; pure (.literal (.bool true))
  | "false" => do advance; pure (.literal (.bool false))
  | "let" => do advance; pure (.ident w)
  | "function" => do
    advance
    functionExpr G c false
  | "class" => do
    advance
    return .classExpr (← Classes.tail G false c []).2
  | "async" => asyncExpr G c
  | _ => if isReserved w then fail .expressionExpected else nameExpr G c w

/-- Takes the slash at a cursor for the start of a regular expression: if that does not end on its
line, it is a token that could not be cut. -/
def cutRegex (c : Cursor) : Cursor :=
  if (c.token = .punct "/" || c.token = .punct "/=") && (regexEnd? false (c.start.drop 1)).isNone then
    { c with
      token := .bad ⟨.unterminatedRegex, c.start⟩
      rest := c.start.dropWhile fun ch => !isLineEnd ch }
  else c

/-- The text of a piece of a template. -/
def pieceText (p : Piece) : Option String := if p.fault.isNone then some (textOf p.units) else none

/-- An expression that starts with a mark. -/
def markExpr (G : Grammar) (c : Context) (m : String) : Parse Expr := do
  match m with
  | "[" => do
    advance
    return .array (← listUntil "]" (slot G c))
  | "\x7b" => do
    advance
    return .object (← listUntil "\x7d" (objectMember G c))
  | "(" => parenthesized G c none
  | "@" => do
    let ds ← decorators G c
    expectWord "class"
    return .classExpr (← Classes.tail G false c ds).2
  | _ =>
    match (m = "/" || m = "/="), regexEnd? false ((← get).start.drop 1) with
    | true, some after => do
      seek after
      pure (.literal .regex)
    | _, _ => fail .expressionExpected

/-- An expression that stands on its own. -/
def primary (G : Grammar) (c : Context) : Parse Expr := do
  modify cutRegex
  match ← token with
  | .word w => wordExpr G c w
  | .number x => do advance; pure (.literal (.number x))
  | .string s => do advance; pure (.literal (.string s))
  | .bigint => do advance; pure (.literal .bigint)
  | .hidden _ => do advance; pure (.compound .other [])
  | .template _ _ => do
    let (pieces, parts) ← template false (G.expression c.inner)
    pure (.template (pieces.map pieceText) parts)
  | .punct m => markExpr G c m
  | _ => fail .expressionExpected

/-! ### Type arguments after a value -/

/-- Whether a token can start an expression, so that type arguments before it are none. -/
def startsExpression (cur : Cursor) : Bool :=
  match cur.token with
  | .word w =>
    !isReserved w
      || ["this", "super", "null", "true", "false", "function", "class", "new", "typeof", "void",
          "delete", "await", "yield"].contains w
      || (w = "import" && [Token.punct "(", .punct "<", .punct "."].contains cur.next.token)
  | .string _ | .number _ | .bigint | .hidden _ | .template _ _ => true
  | .punct m => ["(", "[", "\x7b", "+", "-", "!", "~", "++", "--", "<"].contains m
  | _ => false

/-- Type arguments after a value.  The mark that closes them stands alone, or it would be another
operator. -/
def valueArguments (G : Grammar) : Parse (List Expr) := do
  expectChar '<'
  let es ← writtenIn (return !(← atChar '>')) do
    let es ← G.type
    if ← atChar '>' then pure () else expect ","
    pure es
  match ((← get).start.drop 1).head? with
  | some '>' => fail .expressionExpected
  | some '=' => fail .expressionExpected
  | _ => do
    expectChar '>'
    pure es

/-- Whether what stands at a cursor lets type arguments before it be some: a call, a template, or
what cannot go on after a comparison. -/
def endsArguments (cur : Cursor) : Bool :=
  match cur.token with
  | .template _ _ => true
  | .punct m =>
    if m = "(" then true
    else if ["<", ">", "+", "-"].contains m then false
    else cur.broken || isMarkOperator cur.token || !startsExpression cur
  | _ => cur.broken || !startsExpression cur

/-- The type arguments of a value, if they are there. -/
def instantiate (G : Grammar) (e : Expr) : Parse Expr := do
  if ← atMark "<" then
    let typed ← attempt do
      let types ← valueArguments G
      if endsArguments (← get) then pure types else fail .expressionExpected
    match typed with
    | some types => pure (.compound .instantiation (e :: types))
    | none => pure e
  else pure e

/-! ### Members and calls -/

/-- What members and calls can stand after. -/
inductive Callee where
  | value (e : Expr)
  | superclass
  | module

/-- Whether a value may be missing because of a mark in it. -/
def isOptional : Expr → Bool
  | .compound .chain _ => true
  | .wrapped .nonNull e => isOptional e
  | _ => false

/-- The expressions written in what selects a member. -/
def accessParts : Access → List Expr
  | .computed e => [e]
  | _ => []

/-- The member of a callee; once a chain is optional it stays so. -/
def memberOf (optional : Bool) (callee : Callee) (a : Access) : Parse Expr :=
  match callee with
  | .value e =>
    if optional || isOptional e then pure (.compound .chain (e :: accessParts a))
    else pure (.member e a)
  | .superclass =>
    match a with
    | .hidden _ => fail .badSuperCall
    | _ => pure (.compound .superMember (accessParts a))
  | .module => unexpected "meta"

/-- What is called, with what the call is applied to.  What is written in type arguments in front of
the arguments goes behind them. -/
def applyTo (e : Expr) (args : List Expr) : List Expr :=
  match e with
  | .compound .instantiation (callee :: types) => callee :: (args ++ types)
  | _ => e :: args

/-- The call of a callee. -/
def callOf (optional : Bool) (callee : Callee) (args : List Expr) : Parse Expr :=
  match callee with
  | .value e =>
    pure (.compound (if optional || isOptional e then .chain else .call) (applyTo e args))
  | .superclass => if optional then fail .badSuperCall else pure (.compound .call args)
  | .module => if optional then fail .badImport else pure (.compound .call args)

/-- What type arguments after a value make of it, and whether more can follow. -/
def applied (G : Grammar) (c : Context) (calls : Bool) (e : Expr) : Parse (Expr × Bool) := do
  let types ← valueArguments G
  match ← token with
  | .punct "(" =>
    if calls then
      let args ← arguments G c
      return (← callOf false (.value e) (args ++ types), true)
    else fail .expressionExpected
  | .template _ _ => do
    let (_, parts) ← template true (G.expression c.inner)
    pure (.compound .other (e :: (types ++ parts)), true)
  | .punct "=" => pure (.compound .instantiation (e :: types), false)
  | .word w =>
    if w = "as" || w = "satisfies" then pure (.compound .instantiation (e :: types), false)
    else fail .expressionExpected
  | _ => fail .expressionExpected

/-- A name after a point. -/
def memberName : Parse Access := do
  match ← token with
  | .hidden s => do advance; pure (.hidden s)
  | _ => return .name (← anyWord)

/-- The end of a chain: only a value can stand alone. -/
def chainEnd (calls : Bool) (callee : Callee) : Parse Expr :=
  match callee with
  | .value e => pure e
  | .superclass => fail (if calls then .badSuper else .badSuperCall)
  | .module => fail .badImport

/-- The next member, call or mark after a callee, and whether more can follow.  Where `calls` is
not set only an optional call is read, and where `computed` is not set no member in brackets. -/
def link (G : Grammar) (c : Context) (calls computed : Bool) (callee : Callee) :
    Parse (Expr × Bool) := do
  let optional ← eat "?."
  let bracketed ← if computed then eat "[" else pure false
  if bracketed then
    let e ← G.expression c.inner
    expect "]"
    return (← memberOf optional callee (.computed e), true)
  let types ← if optional && (← atMark "<") then Types.arguments G else pure []
  if (optional || calls) && (← atMark "(") then
    let args ← arguments G c
    return (← callOf optional callee (args ++ types), true)
  let named ← if optional then pure true else eat "."
  if named then
    let a ← memberName
    let e ← memberOf optional callee a
    match callee with
    | .value _ => return (← instantiate G e, true)
    | _ => return (e, true)
  match callee, ← token with
  | .value e, .template _ _ => do
    let (_, parts) ← template true (G.expression c.inner)
    pure (.compound .other (e :: parts), true)
  | _, _ => return (← chainEnd calls callee, false)

/-- The mark after a callee that says it is not missing. -/
def nonNull : Callee → Parse Expr
  | .value e => pure (.wrapped .nonNull e)
  | .superclass => fail (.nonNullKeyword "super")
  | .module => fail (.nonNullKeyword "import")

/-- Members, calls and marks after a callee. -/
def chainFrom (G : Grammar) (c : Context) (calls computed : Bool) : Nat → Callee → Parse Expr
  | 0, _ => fail .exhausted
  | fuel + 1, callee => do
    let cur ← get
    if cur.token = .punct "!" && !cur.broken then
      advance
      chainFrom G c calls computed fuel (.value (← nonNull callee))
    else
      let early ← match callee with
        | .value e =>
          if cur.token = .punct "<" then attempt (applied G c calls e) else pure none
        | _ => pure none
      let (e, more) ← match early with
        | some r => pure r
        | none => link G c calls computed callee
      if more then chainFrom G c calls computed fuel (.value e) else pure e

/-- Members, calls and marks after a value. -/
def chain (G : Grammar) (c : Context) (calls computed : Bool) (e : Expr) : Parse Expr := do
  chainFrom G c calls computed (← remaining) (.value e)

/-- What starts with `import`, after it. -/
def imported (G : Grammar) (c : Context) (calls : Bool) : Parse Expr := do
  let fuel ← remaining
  if ← eat "." then
    let w ← anyWord
    if w = "meta" then chainFrom G c calls true fuel (.value (.compound .other []))
    else if w = "defer" || w = "source" then chainFrom G c calls true fuel .module
    else unexpected "meta"
  else chainFrom G c calls true fuel .module

/-- Whether a construction of an expression is refused because it may be missing. -/
def refusesNew : Expr → Bool
  | .compound .chain _ => true
  | .member (.compound .chain _) _ => true
  | _ => false

/-- Type arguments that a call follows, if they are there. -/
def argumentsBeforeCall (G : Grammar) : Parse (Option (List Expr)) := do
  if ← atMarks ["<", "<<"] then
    attempt do
      let types ← Types.arguments G
      if ← atMark "(" then pure types else missing "("
  else pure none

/-- A value with its members, or a construction; and whether it is one without arguments. -/
def construction (G : Grammar) (c : Context) : Nat → Parse (Expr × Bool)
  | 0 => fail .exhausted
  | fuel + 1 => do
    if ← eatWord "new" then
      if ← eat "." then
        if ← eatWord "target" then return (← chain G c false true (.compound .other []), false)
        else unexpected "target"
      else
        let start := (← get).start
        let (callee, _) ← construction G c.onward fuel
        if refusesNew callee then failAt .optionalConstructor start
        let types ← argumentsBeforeCall G
        if ← atMark "(" then
          let args ← arguments G c
          let e := Expr.compound .call (applyTo callee (args ++ types.getD []))
          return (← chain G c false true e, false)
        else pure (.compound .call [callee], true)
    else if ← eatWord "super" then
      return (← chainFrom G c false true (← remaining) .superclass, false)
    else if ← eatWord "import" then return (← imported G c false, false)
    else
      let e ← primary G c
      if isArrow e then pure (e, false)
      else return (← chain G c.onward false true (← instantiate G e), false)

/-- A value with its members and calls. -/
def operand (G : Grammar) (c : Context) : Parse Expr := do
  if ← eatWord "super" then chainFrom G c true true (← remaining) .superclass
  else if ← eatWord "import" then imported G c true
  else
    let (e, bare) ← construction G c (← remaining)
    if isArrow e then pure e
    else
      let typed ← argumentsBeforeCall G
      if bare then
        if typed.isSome then expect "("
        pure e
      else if ← atMark "(" then
        let args ← arguments G c
        let call ← callOf false (.value e) (args ++ typed.getD [])
        chain G c.onward true true call
      else pure e

/-! ### Prefixes -/

/-- An operand after an operator; if it cannot be read, it is left out. -/
def prefixed (G : Grammar) (c : Context) (op : UnaryOp) : Parse Expr := do
  advance
  match ← asFarAs (G.unary c.onward) with
  | some e => pure (.unary op e)
  | none => pure (.unary op invalid)

/-- What `await` gives back, or a name that looks like it. -/
def awaited (G : Grammar) (c : Context) : Parse Expr := do
  advance
  if ← atMark "*" then fail .awaitStar
  else if !c.inAsync && ((← atStatementEnd) || (← atMarks [")", "]", ","])) then pure (.ident "await")
  else return .compound .awaited [← G.unary c.onward]

/-- An operand with the mark after it that changes it. -/
def postfixed (G : Grammar) (c : Context) : Parse Expr := do
  let e ← G.operand c
  let after ← get
  if !isArrow e && (after.token = .punct "++" || after.token = .punct "--") && !after.broken then
    advance
    pure (.compound .update [e])
  else pure e

/-- An operand with what stands in front of it and after it. -/
def unary (G : Grammar) (c : Context) : Parse Expr := do
  let cur ← get
  match cur.token with
  | .punct "-" => prefixed G c .minus
  | .punct "+" => prefixed G c .plus
  | .punct "!" => prefixed G c .other
  | .punct "~" => prefixed G c .other
  | .word "typeof" => prefixed G c .other
  | .word "void" => prefixed G c .other
  | .word "delete" => prefixed G c .other
  | .word "await" => awaited G c
  | .punct "++" => do
    advance
    return .compound .update [← G.unary c.onward]
  | .punct "--" => do
    advance
    return .compound .update [← G.unary c.onward]
  | .punct "<" =>
    if Elements.opensElement cur.rest then do
      let e ← G.element c.onward
      advance
      pure e
    else postfixed G c
  | _ => postfixed G c

/-! ### Assignments and sequences -/

/-- Whether a token can start what `yield` gives out. -/
def opensYielded : Token → Bool
  | .word w =>
    !keywords.contains w
      || ["new", "this", "super", "class", "import", "null", "true", "false", "typeof", "void",
          "delete", "function", "await", "yield", "let"].contains w
  | .hidden _ | .string _ | .number _ | .bigint | .template _ _ => true
  | .punct m =>
    ["<", "*", "/", "/=", "!", "~", "+", "-", "++", "--", "(", "[", "\x7b", "@"].contains m
  | _ => false

/-- What `yield` gives back. -/
def yielded (G : Grammar) (c : Context) : Parse Expr := do
  expectWord "yield"
  if (← atStatementEnd) || !opensYielded (← token) then pure (.compound .other [])
  else
    let _ ← eat "*"
    return .compound .other [← G.assignment c]

/-- Whether an arrow function could start at a token. -/
def opensArrow : Token → Bool
  | .word w => !keywords.contains w
  | .punct m => m = "("
  | _ => false

/-- Whether an expression is complete: no assignment can follow it. -/
def isComplete : Expr → Bool
  | .function true _ _ | .unary _ _ => true
  | .compound .conditional _ | .compound .binary _ | .compound .update _ => true
  | _ => false

/-- An expression without commas that does not start with type parameters. -/
def plainAssignment (G : Grammar) (c : Context) : Parse Expr := do
  if c.inGenerator && (← atWord "yield") then yielded G c
  else
    modify cutRegex
    wellCut
    let cur ← get
    let e ← conditional G { c with arrowHere := opensArrow cur.token }
    if isComplete e then pure e else finishAssignment G c cur.start e

/-- Whether an angle bracket opens the type parameters of an arrow function, and not a tag. -/
def opensTypeParameters (cur : Cursor) : Bool :=
  let n := cur.next
  let n := if n.token = .word "const" then n.next else n
  cur.token = .punct "<" && match n.token, n.next.token with
    | .word _, .punct m => m = "," || m = "="
    | .word _, .word w =>
      w = "extends" && !([Token.punct "=", .punct ">", .punct "/"].contains n.next.next.token)
    | _, _ => false

/-- An expression without commas. -/
def assignment (G : Grammar) (c : Context) : Parse Expr := do
  let generic ← if opensTypeParameters (← get) then
      attempt do
        let types ← Types.parameters G
        let e ← plainAssignment G { c with colonAhead := false }
        if isArrow e then pure (withTypeParameters types e) else unexpected "("
    else pure none
  match generic with
  | some e => pure e
  | none => plainAssignment G c

/-- Expressions separated by commas. -/
def sequence (G : Grammar) (c : Context) : Parse Expr := commaSeparated (G.assignment c)

end PageConfig.Source.Expressions
