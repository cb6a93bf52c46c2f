import PageConfig.Extract.Reduce

/-!
# Marks

What a scan needs to know of a module is a list of marks, in the order in
which a walk meets them.  The walk goes through a module in the order of its
text, except that a class is walked as decorators, members, superclass, types,
and a field as key, value, type, decorators.  The types of a function come after
its body, and those of a call after its arguments.  A mark comes before those of
what it holds.
-/

namespace PageConfig.Extract

open PageConfig.Source

/-- Something that a walk meets and a scan depends on. -/
inductive Mark where
  /-- An element with a plain tag. -/
  | tag (name : String)
  /-- A class field named `config`, with its value. -/
  | field (value : Expr)
  /-- An assignment to the `config` of a name. -/
  | assignment (object : String) (value : Expr)
  /-- The name of the default export, if it has one. -/
  | exportName (name : Option String)
  /-- A name bound by an import. -/
  | binding (isDefault : Bool) (name source : String)

/-- The name of the member that holds a config. -/
def configName : String := "config"

/-- Whether a member is the one that holds a config. -/
def isConfigAccess : Access → Bool
  | .name s => s = configName
  | .hidden _ => false
  | .computed e =>
    match e.unwrap with
    | .literal (.string s) => s = configName
    | _ => false

/-- The mark of an assignment: a plain one, to the config of a bare name. -/
def assignmentMark (plain : Bool) (target value : Expr) : List Mark :=
  match plain, target with
  | true, .member (.ident object) key =>
    if isConfigAccess key then [.assignment object value] else []
  | _, _ => []

/-- The mark of an element. -/
def tagMark : Tag → List Mark
  | .plain name => [.tag name]
  | .other _ => []
  | .fragment => []

/-- The mark of a field. -/
def fieldMark (key : Key) (value : Option Expr) : List Mark :=
  match value with
  | some v => if keyText? key = some configName then [.field v] else []
  | none => []

/-- The mark of a default export that is an expression: only a name is one. -/
def exportMark (e : Expr) : List Mark :=
  match e.unwrap with
  | .ident name => [.exportName (some name)]
  | _ => []

mutual

/-- The marks in an expression. -/
def exprMarks : Expr → List Mark
  | .ident _ => []
  | .literal _ => []
  | .template _ parts => exprsMarks parts
  | .object members => membersMarks members
  | .array slots => slotsMarks slots
  | .unary _ operand => exprMarks operand
  | .member target key => exprMarks target ++ accessMarks key
  | .assign plain target value =>
    assignmentMark plain target value ++ exprMarks target ++ exprMarks value
  | .wrapped wrapper inner => exprMarks inner ++ wrapperMarks wrapper
  | .function _ parts result => stmtsMarks parts ++ exprsMarks result
  | .classExpr body => classMarks body
  | .element tag attributes children =>
    tagMark tag ++ exprsMarks attributes ++ exprsMarks children
  | .compound _ parts => exprsMarks parts

/-- The marks in some expressions. -/
def exprsMarks : List Expr → List Mark
  | [] => []
  | e :: es => exprMarks e ++ exprsMarks es

/-- The marks in the type of a wrapper. -/
def wrapperMarks : Wrapper → List Mark
  | .parens => []
  | .cast types => exprsMarks types
  | .constCast => []
  | .satisfies types => exprsMarks types
  | .nonNull => []
  | .assertion types => exprsMarks types

/-- The marks in an expression that may be missing. -/
def optionMarks : Option Expr → List Mark
  | none => []
  | some e => exprMarks e

/-- The marks in a key. -/
def keyMarks : Key → List Mark
  | .name _ => []
  | .string _ => []
  | .number _ => []
  | .bigint => []
  | .computed e => exprMarks e

/-- The marks in a key that may be missing. -/
def optionKeyMarks : Option Key → List Mark
  | none => []
  | some k => keyMarks k

/-- The marks in what selects a member. -/
def accessMarks : Access → List Mark
  | .name _ => []
  | .hidden _ => []
  | .computed e => exprMarks e

/-- The marks in a member of an object. -/
def memberMarks : Member → List Mark
  | .pair key value => keyMarks key ++ exprMarks value
  | .shorthand _ => []
  | .shorthandDefault _ value => exprMarks value
  | .method _ key parts _ => keyMarks key ++ stmtsMarks parts
  | .spread value => exprMarks value

/-- The marks in the members of an object. -/
def membersMarks : List Member → List Mark
  | [] => []
  | m :: ms => memberMarks m ++ membersMarks ms

/-- The marks in a place of an array. -/
def slotMarks : Slot → List Mark
  | .hole => []
  | .item value => exprMarks value
  | .spread value => exprMarks value

/-- The marks in the places of an array. -/
def slotsMarks : List Slot → List Mark
  | [] => []
  | s :: ss => slotMarks s ++ slotsMarks ss

/-- The marks in a class. -/
def classMarks : ClassDef → List Mark
  | .mk decorators members superclass types =>
    exprsMarks decorators ++ classMembersMarks members ++ optionMarks superclass
      ++ exprsMarks types

/-- The marks in a member of a class. -/
def classMemberMarks : ClassMember → List Mark
  | .field key value annotations =>
    fieldMark key value ++ keyMarks key ++ optionMarks value ++ exprsMarks annotations
  | .hiddenField parts => exprsMarks parts
  | .method key parts => optionKeyMarks key ++ stmtsMarks parts

/-- The marks in the members of a class. -/
def classMembersMarks : List ClassMember → List Mark
  | [] => []
  | m :: ms => classMemberMarks m ++ classMembersMarks ms

/-- The marks in a variable. -/
def declaratorMarks : Declarator → List Mark
  | .plain _ value => optionMarks value
  | .pattern parts value => exprsMarks parts ++ optionMarks value

/-- The marks in some variables. -/
def declaratorsMarks : List Declarator → List Mark
  | [] => []
  | d :: ds => declaratorMarks d ++ declaratorsMarks ds

/-- The marks in a statement. -/
def stmtMarks : Stmt → List Mark
  | .expr e => exprMarks e
  | .vars ds => declaratorsMarks ds
  | .classDecl body => classMarks body
  | .functionDecl parts => stmtsMarks parts
  | .group parts => stmtsMarks parts
  | .imports bindings source _ => bindings.map fun b => .binding b.isDefault b.name source
  | .exported decl => stmtMarks decl
  | .exportNames defaults => defaults.map fun name => .exportName (some name)
  | .exportDecl name decl => .exportName name :: stmtMarks decl
  | .exportExpr e => exportMark e ++ exprMarks e

/-- The marks in some statements. -/
def stmtsMarks : List Stmt → List Mark
  | [] => []
  | s :: ss => stmtMarks s ++ stmtsMarks ss

end

end PageConfig.Extract
