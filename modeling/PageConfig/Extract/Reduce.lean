import PageConfig.Source.Tree
import PageConfig.Decimal.Layout
import PageConfig.Json.Value

/-!
# Literal values

A config is written as an expression, and only what is a literal in it can be
taken over.  `reduce` keeps the literal part of an expression as a JSON value
and lists the rest as omissions, each with the path of keys that leads to it.

A value that is undefined is left out of a mapping and becomes null in a list,
as do holes; numbers that JSON cannot write become null.
-/

namespace PageConfig.Extract

open PageConfig.Decimal (Binary64 Style)
open PageConfig.Json (Value Fields)
open PageConfig.Source

/-! ### Omissions -/

/-- What was found where a literal was wanted. -/
inductive Kind where
  | bigint
  | regex
  | template
  | substitutions
  | unary
  | reference
  | call
  | member
  | function
  | conditional
  | binary
  | expression
  | spread
  | computedKey
  | method
  | getter
  | setter
  | assignment
deriving DecidableEq, Inhabited

/-- The kind in words. -/
def Kind.words : Kind → String
  | bigint => "BigInt literal"
  | regex => "regular expression"
  | template => "template literal"
  | substitutions => "template literal with substitutions"
  | unary => "unary expression"
  | reference => "identifier reference"
  | call => "function call"
  | member => "member expression"
  | function => "function"
  | conditional => "conditional expression"
  | binary => "binary expression"
  | expression => "expression"
  | spread => "spread"
  | computedKey => "computed key"
  | method => "method"
  | getter => "getter"
  | setter => "setter"
  | assignment => "assignment"

/-- A value that is no literal: the path of keys to it, and what it is. -/
structure Omission where
  path : String
  kind : Kind
deriving DecidableEq, Inhabited

/-- The path of a key below a path. -/
def childPath (path key : String) : String :=
  if path.isEmpty then key else path ++ "." ++ key

/-- The path of an item below a path. -/
def itemPath (path : String) (index : Nat) : String :=
  path ++ "[" ++ toString index ++ "]"

/-! ### Numbers and keys -/

/-- A number as a config value: whole numbers below `2 ^ 53` are integers. -/
def numberValue (x : Binary64) : Value :=
  match x.toSafeInt?, x with
  | some n, _ => .int n
  | none, .infinite _ => .null
  | none, .finite _ _ _ => .double x

/-- Numbers used as keys never have an exponent. -/
def keyStyle : Style where
  positional _ := true
  keepPoint := false
  infinity := "inf"

/-- A number as a key. -/
def numberKey (x : Binary64) : String :=
  match x.toSafeInt? with
  | some n => toString n
  | none => x.render keyStyle

/-- The text of a key, if it can be told without running the program. -/
def keyText? : Key → Option String
  | .name s => some s
  | .string s => some s
  | .number x => some (numberKey x)
  | .bigint => none
  | .computed e =>
    match e.unwrap with
    | .literal (.string s) => some s
    | _ => none

/-! ### Reduction -/

/-- What an expression comes to. -/
inductive Reduction where
  | value (v : Value)
  | undefined
  | nonLiteral (kind : Kind)
deriving Inhabited

/-- What a literal comes to. -/
def reduceLiteral : Literal → Reduction
  | .string s => .value (.string s)
  | .number x => .value (numberValue x)
  | .bool b => .value (.bool b)
  | .null => .value .null
  | .bigint => .nonLiteral .bigint
  | .regex => .nonLiteral .regex

/-- What a name comes to. -/
def reduceName (name : String) : Reduction :=
  if name = "undefined" then .undefined
  else if name = "NaN" || name = "Infinity" then .value .null
  else .nonLiteral .reference

/-- What a template comes to: its text, if it is nothing but text. -/
def reduceTemplate (chunks : List (Option String)) (parts : List Expr) : Reduction :=
  if parts.isEmpty then
    match chunks.head? with
    | some (some text) => .value (.string text)
    | _ => .nonLiteral .template
  else .nonLiteral .substitutions

/-- What an operator in front of an operand comes to: only numbers have a sign. -/
def reduceUnary (op : UnaryOp) (operand : Expr) : Reduction :=
  match op, operand.unwrap with
  | .minus, .literal (.number x) => .value (numberValue x.neg)
  | .plus, .literal (.number x) => .value (numberValue x)
  | _, _ => .nonLiteral .unary

/-- What a form made of parts is called. -/
def formKind : Form → Kind
  | .call => .call
  | .chain => .call
  | .conditional => .conditional
  | .binary => .binary
  | _ => .expression

/-- What a member that is a function is called. -/
def methodKind : MethodKind → Kind
  | .method => .method
  | .getter => .getter
  | .setter => .setter

/-- Adds what a key comes to to the fields before it. -/
def addField (fields : Fields) (key path : String) : Reduction → Fields × List Omission
  | .value v => (fields.insert key v, [])
  | .undefined => (fields, [])
  | .nonLiteral kind => (fields, [⟨path, kind⟩])

/-- What an item of a list comes to: some item or none, and what is omitted. -/
def itemOf (path : String) : Reduction → List Value × List Omission
  | .value v => ([v], [])
  | .undefined => ([.null], [])
  | .nonLiteral kind => ([], [⟨path, kind⟩])

mutual

/-- What an expression at a path comes to, and what is omitted inside it. -/
def reduceAt (path : String) : Expr → Reduction × List Omission
  | .wrapped _ inner => reduceAt path inner
  | .object members =>
    let (fields, omitted) := reduceMembers path [] members
    (.value (.object fields), omitted)
  | .array slots =>
    let (items, omitted) := reduceSlots path 0 slots
    (.value (.array items), omitted)
  | .literal l => (reduceLiteral l, [])
  | .template chunks parts => (reduceTemplate chunks parts, [])
  | .unary op operand => (reduceUnary op operand, [])
  | .ident name => (reduceName name, [])
  | .member _ _ => (.nonLiteral .member, [])
  | .function _ _ _ => (.nonLiteral .function, [])
  | .compound form _ => (.nonLiteral (formKind form), [])
  | .assign _ _ _ => (.nonLiteral .expression, [])
  | .classExpr _ => (.nonLiteral .expression, [])
  | .element _ _ _ => (.nonLiteral .expression, [])

/-- The fields of a mapping after those before them, and what is omitted. -/
def reduceMembers (path : String) (fields : Fields) : List Member → Fields × List Omission
  | [] => (fields, [])
  | m :: ms =>
    let (fields, omitted) := reduceMember path fields m
    let (fields, more) := reduceMembers path fields ms
    (fields, omitted ++ more)

/-- The fields of a mapping after one more member, and what is omitted. -/
def reduceMember (path : String) (fields : Fields) : Member → Fields × List Omission
  | .pair key value =>
    match keyText? key with
    | none => (fields, [⟨childPath path "[computed]", .computedKey⟩])
    | some k =>
      let (r, inside) := reduceAt (childPath path k) value
      let (fields, omitted) := addField fields k (childPath path k) r
      (fields, inside ++ omitted)
  | .shorthand name => (fields, [⟨childPath path name, .reference⟩])
  | .shorthandDefault name _ => (fields, [⟨childPath path name, .assignment⟩])
  | .method kind key _ _ =>
    (fields, [⟨childPath path ((keyText? key).getD ""), methodKind kind⟩])
  | .spread _ => (fields, [⟨childPath path "...", .spread⟩])

/-- The items of a list from an index on, and what is omitted. -/
def reduceSlots (path : String) (index : Nat) : List Slot → List Value × List Omission
  | [] => ([], [])
  | s :: ss =>
    let (items, omitted) := reduceSlot path index s
    let (more, moreOmitted) := reduceSlots path (index + 1) ss
    (items ++ more, omitted ++ moreOmitted)

/-- What a place of a list comes to, and what is omitted. -/
def reduceSlot (path : String) (index : Nat) : Slot → List Value × List Omission
  | .hole => ([.null], [])
  | .item value =>
    let (r, inside) := reduceAt (itemPath path index) value
    let (items, omitted) := itemOf (itemPath path index) r
    (items, inside ++ omitted)
  | .spread _ => ([], [⟨itemPath path index, .spread⟩])

end

/-- A config value, and what was omitted from it. -/
structure Reduced where
  value : Value
  omitted : List Omission
deriving Inhabited

/-- The config value of an expression.  An expression that is no literal gives the empty mapping,
with itself as the omission. -/
def reduce (e : Expr) : Reduced :=
  match reduceAt "" e with
  | (.value v, omitted) => ⟨v, omitted⟩
  | (.undefined, omitted) => ⟨.empty, omitted⟩
  | (.nonLiteral kind, omitted) => ⟨.empty, omitted ++ [⟨"config", kind⟩]⟩

end PageConfig.Extract
