import PageConfig.Decimal.Binary64

/-!
# Syntax trees

The tree of a module keeps what a config value or a walk over the module can
depend on.  Of a type it keeps the expressions written in it: computed keys of
its members, defaults in the parameters of a signature.  Types are named only
where they are imported.  Forms that only hold other expressions are `compound`:
a form and its parts in the order of the walk.  A statement that only holds
other statements is a `group`, and the parts of a function are its parameters,
decorators, body and types in the order of the walk.  A destructuring pattern
is the list of the expressions written in it.
-/

namespace PageConfig.Source

open PageConfig.Decimal (Binary64)

/-- A literal. -/
inductive Literal where
  | string (s : String)
  | number (x : Binary64)
  | bool (b : Bool)
  | null
  | bigint
  | regex
deriving DecidableEq, Inhabited

/-- An operator in front of its operand. -/
inductive UnaryOp where
  | minus
  | plus
  | other
deriving DecidableEq, Inhabited

/-- What an expression made of parts is. -/
inductive Form where
  /-- Calls, constructions and dynamic imports. -/
  | call
  /-- Members and calls after a mark that lets them be missing. -/
  | chain
  | conditional
  | binary
  /-- A value that is changed in place. -/
  | update
  | awaited
  /-- A member of the superclass. -/
  | superMember
  /-- A value with type arguments. -/
  | instantiation
  /-- A pattern that is assigned to, by the expressions written in it. -/
  | pattern
  /-- What stands for an expression that could not be read. -/
  | invalid
  | other
deriving DecidableEq, Inhabited

/-- How a member of an object literal that is a function is called. -/
inductive MethodKind where
  | method
  | getter
  | setter
deriving DecidableEq, Inhabited

/-- A name bound by an import, as the default of its module or otherwise. -/
structure Binding where
  isDefault : Bool
  name : String
deriving DecidableEq, Inhabited

/-- A tag of an element: a plain name, any other name, or none. -/
inductive Tag where
  | plain (name : String)
  | other (name : String)
  | fragment
deriving DecidableEq, Inhabited

mutual

/-- An expression. -/
inductive Expr where
  | ident (name : String)
  | literal (value : Literal)
  /-- A template: its pieces of text (`none` for an escape that means nothing) and substitutions. -/
  | template (chunks : List (Option String)) (parts : List Expr)
  | object (members : List Member)
  | array (slots : List Slot)
  | unary (op : UnaryOp) (operand : Expr)
  | member (target : Expr) (key : Access)
  /-- An assignment; `plain` when the operator is a single `=`. -/
  | assign (plain : Bool) (target value : Expr)
  | wrapped (wrapper : Wrapper) (inner : Expr)
  /-- A function of any kind, by its parts and, for an arrow, what is written in its result type. -/
  | function (isArrow : Bool) (parts : List Stmt) (result : List Expr)
  | classExpr (body : ClassDef)
  /-- An element: its tag, the values of its attributes and what is written in its type arguments,
  and its children. -/
  | element (tag : Tag) (attributes children : List Expr)
  | compound (form : Form) (parts : List Expr)

/-- Marks around an expression that do not change its value, with what is written in their types. -/
inductive Wrapper where
  | parens
  | cast (types : List Expr)
  | constCast
  | satisfies (types : List Expr)
  | nonNull
  | assertion (types : List Expr)

/-- A member of an object literal. -/
inductive Member where
  | pair (key : Key) (value : Expr)
  | shorthand (name : String)
  | shorthandDefault (name : String) (value : Expr)
  /-- A method, with the text from it on. -/
  | method (kind : MethodKind) (key : Key) (parts : List Stmt) (place : List Char)
  | spread (value : Expr)

/-- The key of a member. -/
inductive Key where
  | name (s : String)
  | string (s : String)
  | number (x : Binary64)
  | bigint
  | computed (e : Expr)

/-- A place in an array literal. -/
inductive Slot where
  | hole
  | item (value : Expr)
  | spread (value : Expr)

/-- What selects a member of an object. -/
inductive Access where
  | name (s : String)
  | hidden (s : String)
  | computed (e : Expr)

/-- A class: its decorators, members and superclass, and what is written in its types. -/
inductive ClassDef where
  | mk (decorators : List Expr) (members : List ClassMember) (superclass : Option Expr)
    (types : List Expr)

/-- A member of a class. -/
inductive ClassMember where
  /-- A field with a public key, its value, and what is written in its type and its decorators. -/
  | field (key : Key) (value : Option Expr) (annotations : List Expr)
  /-- A private or accessor field, by its key, value, type and decorators, or a type for many
  fields. -/
  | hiddenField (parts : List Expr)
  /-- A method, by its key and the parts of its function. -/
  | method (key : Option Key) (parts : List Stmt)

/-- A statement or a module item. -/
inductive Stmt where
  | expr (e : Expr)
  /-- Variables: for each, its name if that is all, what is written in its pattern and its type
  otherwise, and its value. -/
  | vars (declarators : List Declarator)
  | classDecl (body : ClassDef)
  | functionDecl (parts : List Stmt)
  | group (parts : List Stmt)
  /-- An import: the names it binds to values, the module they come from, and the names that it
  binds to types only. -/
  | imports (bindings : List Binding) (source : String) (types : List Binding := [])
  /-- `export` in front of a declaration. -/
  | exported (decl : Stmt)
  /-- Names exported from this module as the default. -/
  | exportNames (defaults : List String)
  /-- A default export that declares a class or a function, which may have a name. -/
  | exportDecl (name : Option String) (decl : Stmt)
  | exportExpr (e : Expr)

/-- A variable in a declaration. -/
inductive Declarator where
  | plain (name : String) (value : Option Expr)
  | pattern (parts : List Expr) (value : Option Expr)

end

instance : Inhabited Expr := ⟨.ident ""⟩
instance : Inhabited Stmt := ⟨.group []⟩

/-- A module is its items in order. -/
abbrev Module := List Stmt

/-- The expression inside every wrapper. -/
def Expr.unwrap : Expr → Expr
  | .wrapped _ inner => inner.unwrap
  | e => e

end PageConfig.Source
