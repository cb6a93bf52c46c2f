import PageConfig.Source.Grammar.Patterns
import PageConfig.Source.Grammar.Types

/-!
# Patterns and functions

Binding patterns, keys, decorators, parameters and function bodies.
-/

namespace PageConfig.Source

open Parse

/-! ### Keys -/

/-- What is wanted where the key of a member has to stand. -/
def wantedKey : String := "identifier, string literal, numeric literal or [ for the computed key"

/-- Expressions separated by commas, as one. -/
def commaSeparated (item : Parse Expr) : Parse Expr := do
  let e ← item
  let rest ← several (atMark ",") do
    advance
    item
  match rest with
  | [] => pure e
  | _ => pure (.compound .other (e :: rest))

/-- The key of a member. -/
def key (G : Grammar) (c : Context) : Parse Key := do
  match ← token with
  | .word w => do advance; pure (.name w)
  | .string s => do advance; pure (.string s)
  | .number x => do advance; pure (.number x)
  | .bigint => do advance; pure .bigint
  | .punct "[" => do
    advance
    let e ← commaSeparated (G.assignment c.inner)
    expect "]"
    pure (.computed e)
  | _ => unexpected wantedKey

/-! ### Patterns -/

/-- The value after an equals sign, if there is one. -/
def initial (G : Grammar) (c : Context) : Parse (Option Expr) := do
  if ← eat "=" then return some (← G.assignment c) else pure none

/-- A pattern with an optional default. -/
def patternWithDefault (G : Grammar) (c : Context) : Parse (List Expr) := do
  let p ← G.pattern c
  let d ← initial G { c with noIn := false }
  pure (p.parts ++ d.toList)

/-- A place in an array pattern. -/
def arrayPatternItem (G : Grammar) (c : Context) : Parse (List Expr) := do
  if ← atMark "," then pure []
  else if ← eat "..." then return (← G.pattern c).parts
  else patternWithDefault G c

/-- A member of an object pattern. -/
def objectPatternItem (G : Grammar) (c : Context) : Parse (List Expr) := do
  if ← eat "..." then return (← G.pattern c).parts
  let k ← key G c
  if ← eat ":" then
    return k.parts ++ (← patternWithDefault G c)
  else
    match k with
    | .name _ => return (← initial G { c with noIn := false }).toList
    | _ => unexpected "an identifier"

/-- A binding pattern. -/
def bindingPattern (G : Grammar) (c : Context) (noLet : Bool) : Parse Pattern := do
  wellCut
  match ← token with
  | .word _ => return ⟨some (← bindingName noLet), []⟩
  | .punct "[" => do
    advance
    return ⟨none, (← listUntil "]" (arrayPatternItem G c)).flatten⟩
  | .punct "\x7b" => do
    advance
    return ⟨none, (← listUntil "\x7d" (objectPatternItem G c)).flatten⟩
  | _ => unexpected "yield, an identifier, [ or \x7b"

/-! ### Decorators -/

/-- The arguments of a call, in parentheses. -/
def arguments (G : Grammar) (c : Context) : Parse (List Expr) := do
  expect "("
  listUntil ")" do
    let _ ← eat "..."
    G.assignment c.inner

/-- A decorator: a name with its members and calls, or an expression in parentheses; arguments may
follow either. -/
def decorator (G : Grammar) (c : Context) : Parse Expr := do
  expect "@"
  let e ← if ← eat "(" then do
      let e ← G.expression c.inner
      expect ")"
      pure e
    else do
      let w ← nameWith false
      G.chain c.inner true false (.ident w)
  let typed ← atMark "<"
  let types ← if typed then Types.arguments G else pure []
  if typed || (← atMark "(") then
    let args ← arguments G c
    pure (.compound .call (e :: (args ++ types)))
  else pure e

/-- The decorators that come next. -/
def decorators (G : Grammar) (c : Context) : Parse (List Expr) :=
  several (atMark "@") (decorator G c)

/-! ### Parameters -/

/-- A pattern that takes all arguments that are left, after its mark, with its default and type. -/
def restPattern (G : Grammar) (c : Context) : Parse (List Expr) := do
  let p ← G.pattern c
  let d ← initial G c
  let types ← Types.annotation G
  let _ ← eat "?"
  pure (p.parts ++ d.toList ++ types)

/-- The pattern of a parameter, with what is written in its type and its default. -/
structure ParameterPattern where
  pattern : Pattern
  hasDefault : Bool
  /-- The text from the pattern on. -/
  place : List Char

/-- The pattern of a parameter, with its type and default.  A default may stand before the type,
but then the parameter is not optional, and the type is dropped. -/
def parameterPattern (G : Grammar) (c : Context) : Parse ParameterPattern := do
  eatAccess
  let place := (← get).start
  let p ← G.pattern c
  let early ← initial G { c with noIn := false }
  let mark := (← get).start
  if ← eat "?" then
    if early.isSome && !c.ambient then failAt .optionalPattern mark
  let types ← Types.annotation G
  let late ← initial G c
  let typed := if early.isSome then early.toList else types
  pure ⟨⟨p.name, p.parts ++ typed ++ late.toList⟩, early.isSome || late.isSome, place⟩

/-- A parameter of a function. -/
def parameter (G : Grammar) (c : Context) : Parse Parameter := do
  let ds ← decorators G c
  if ← eat "..." then return ⟨ds, ← restPattern G c, false⟩
  else
    let p ← parameterPattern G c
    pure ⟨ds, p.pattern.parts, p.hasDefault⟩

/-- A parameter of a constructor.  With a modifier it is a field as well, and has to be a name. -/
def constructorParameter (G : Grammar) (c : Context) : Parse Parameter := do
  let ds ← decorators G c
  if ← eat "..." then return ⟨ds, ← restPattern G c, false⟩
  else
    let access ← eatModifier ["public", "protected", "private"]
    let overrides ← eatModifier ["override"]
    let readOnly ← eatModifier ["readonly"]
    let p ← parameterPattern G c
    let isField := access.isSome || overrides.isSome || readOnly.isSome
    if isField && p.pattern.name.isNone && !p.hasDefault then failAt .parameterField p.place
    pure ⟨ds, p.pattern.parts, p.hasDefault⟩

/-- Parameters up to the closing parenthesis, which is left. -/
def parametersOf (item : Parse Parameter) : Parse (List Parameter) :=
  several (return !(← atMark ")")) do
    let p ← item
    if ← atMark ")" then pure () else expect ","
    pure p

/-- The parameters of a function, up to the closing parenthesis. -/
def parameterList (G : Grammar) (c : Context) : Parse (List Parameter) :=
  parametersOf (parameter G c.inner)

/-! ### Functions -/

/-- Statements up to a closing brace.  The end of the text closes a block as well. -/
def block (G : Grammar) (c : Context) : Parse (List Stmt) := do
  expect "\x7b"
  let body ← several (do
      let t ← token
      pure (t ≠ .punct "\x7d" && t ≠ .eof)) (G.statement c.inner)
  let _ ← eat "\x7d"
  pure body

/-- A function without its name: its parameters, its body if it has one, and what is written in its
type parameters and its result type. -/
structure FunctionRest where
  parameters : List Parameter
  body : Option (List Stmt)
  typeParameters : List Expr
  result : List Expr

/-- The body of a function, which may be missing where a statement may end. -/
def functionBody (G : Grammar) (c : Context) : Parse (Option (List Stmt)) := do
  let ends ← if ← atMark "\x7b" then pure false else eatEnd
  if ends then pure none else return some (← block G c)

/-- What follows the name of a function: type parameters, parameters, result type, body. -/
def functionRest (G : Grammar) (c : Context) : Parse FunctionRest := do
  let types ← Types.parameters G
  expect "("
  let ps ← G.parameters c
  expect ")"
  let result ← Types.resultAnnotation G
  return ⟨ps, ← functionBody G c, types, result⟩

/-- The parts of a function, with the decorators of the function itself. -/
def FunctionRest.parts (f : FunctionRest) (ds : List Expr) : List Stmt :=
  (f.parameters.flatMap Parameter.exprs ++ ds).map Stmt.expr ++ f.body.getD []
    ++ (f.typeParameters ++ f.result).map Stmt.expr

end PageConfig.Source
