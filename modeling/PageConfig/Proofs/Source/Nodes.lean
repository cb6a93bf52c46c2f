import PageConfig.Source.Grammar.Patterns
import Mathlib.Logic.Relation

/-!
# Nodes of a syntax tree

What a module says about itself may stand anywhere in it, at whatever depth.
A node is a part of a module that can say something of its own: an expression,
a member of a class, or a statement.  `Node.children` are the nodes right below
a node, in the order of the text, except that the members of a class come
before its superclass, the value of a field before its type and decorators, and
the body of a function before its types.

`Node.walk` lists a node and everything inside it, each node before what it
holds.  Nothing is left out (`mem_walk_iff`): a node is in the walk exactly if
steps from a node to one of its children lead to it.
-/

namespace PageConfig.Source

/-- A part of a module that can say something of its own. -/
inductive Node where
  | expr (e : Expr)
  | classMember (m : ClassMember)
  | stmt (s : Stmt)

/-! ### What stands right inside a node -/

/-- The expression in what selects a member. -/
def Access.parts : Access → List Expr
  | .name _ => []
  | .hidden _ => []
  | .computed e => [e]

/-- The expressions written in the type of a wrapper. -/
def Wrapper.parts : Wrapper → List Expr
  | .parens => []
  | .cast types => types
  | .constCast => []
  | .satisfies types => types
  | .nonNull => []
  | .assertion types => types

/-- The expression in a place of an array. -/
def Slot.parts : Slot → List Expr
  | .hole => []
  | .item value => [value]
  | .spread value => [value]

/-- The expressions of a variable. -/
def Declarator.parts : Declarator → List Expr
  | .plain _ value => value.toList
  | .pattern parts value => parts ++ value.toList

/-- The nodes of a member of an object. -/
def Member.parts : Member → List Node
  | .pair key value => (key.parts ++ [value]).map .expr
  | .shorthand _ => []
  | .shorthandDefault _ value => [.expr value]
  | .method _ key parts _ => key.parts.map .expr ++ parts.map .stmt
  | .spread value => [.expr value]

/-- The nodes of a class. -/
def ClassDef.parts : ClassDef → List Node
  | .mk decorators members superclass types =>
    decorators.map .expr ++ members.map .classMember ++ (superclass.toList ++ types).map .expr

/-- The nodes right below an expression. -/
def Expr.parts : Expr → List Node
  | .ident _ => []
  | .literal _ => []
  | .template _ parts => parts.map .expr
  | .object members => members.flatMap Member.parts
  | .array slots => (slots.flatMap Slot.parts).map .expr
  | .unary _ operand => [.expr operand]
  | .member target key => (target :: key.parts).map .expr
  | .assign _ target value => [.expr target, .expr value]
  | .wrapped wrapper inner => (inner :: wrapper.parts).map .expr
  | .function _ parts result => parts.map .stmt ++ result.map .expr
  | .classExpr body => body.parts
  | .element _ attributes children => (attributes ++ children).map .expr
  | .compound _ parts => parts.map .expr

/-- The nodes right below a member of a class. -/
def ClassMember.parts : ClassMember → List Node
  | .field key value annotations => (key.parts ++ value.toList ++ annotations).map .expr
  | .hiddenField parts => parts.map .expr
  | .method key parts => (key.toList.flatMap Key.parts).map .expr ++ parts.map .stmt

/-- The nodes right below a statement. -/
def Stmt.parts : Stmt → List Node
  | .expr e => [.expr e]
  | .vars declarators => (declarators.flatMap Declarator.parts).map .expr
  | .classDecl body => body.parts
  | .functionDecl parts => parts.map .stmt
  | .group parts => parts.map .stmt
  | .imports _ _ _ => []
  | .exported decl => [.stmt decl]
  | .exportNames _ => []
  | .exportDecl _ decl => [.stmt decl]
  | .exportExpr e => [.expr e]

/-- The nodes right below a node, in the order of the walk. -/
def Node.children : Node → List Node
  | .expr e => e.parts
  | .classMember m => m.parts
  | .stmt s => s.parts

/-! ### What stands inside is smaller -/

lemma Key.sizeOf_lt {k : Key} {e : Expr} (h : e ∈ k.parts) : sizeOf e < sizeOf k := by
  cases k <;> simp_all [Key.parts]

lemma Access.sizeOf_lt {a : Access} {e : Expr} (h : e ∈ a.parts) : sizeOf e < sizeOf a := by
  cases a <;> simp_all [Access.parts]

lemma Wrapper.sizeOf_lt {w : Wrapper} {e : Expr} (h : e ∈ w.parts) : sizeOf e < sizeOf w := by
  cases w <;> grind [Wrapper.parts, → List.sizeOf_lt_of_mem]

lemma Slot.sizeOf_lt {s : Slot} {e : Expr} (h : e ∈ s.parts) : sizeOf e < sizeOf s := by
  cases s <;> simp_all [Slot.parts]

lemma Declarator.sizeOf_lt {d : Declarator} {e : Expr} (h : e ∈ d.parts) :
    sizeOf e < sizeOf d := by
  cases d <;> grind [Declarator.parts, → List.sizeOf_lt_of_mem]

lemma Member.sizeOf_le {m : Member} {n : Node} (h : n ∈ m.parts) : sizeOf n ≤ sizeOf m := by
  cases m <;> grind [Member.parts, → List.sizeOf_lt_of_mem, → Key.sizeOf_lt]

lemma ClassDef.sizeOf_lt {body : ClassDef} {n : Node} (h : n ∈ body.parts) :
    sizeOf n < sizeOf body := by
  cases body
  grind [ClassDef.parts, → List.sizeOf_lt_of_mem]

lemma Expr.sizeOf_le {e : Expr} {n : Node} (h : n ∈ e.parts) : sizeOf n ≤ sizeOf e := by
  cases e <;> grind [Expr.parts, → List.sizeOf_lt_of_mem, → Member.sizeOf_le, → Slot.sizeOf_lt,
    → Access.sizeOf_lt, → Wrapper.sizeOf_lt, → ClassDef.sizeOf_lt]

lemma ClassMember.sizeOf_le {m : ClassMember} {n : Node} (h : n ∈ m.parts) :
    sizeOf n ≤ sizeOf m := by
  cases m <;> grind [ClassMember.parts, → List.sizeOf_lt_of_mem, → Key.sizeOf_lt]

lemma Stmt.sizeOf_le {s : Stmt} {n : Node} (h : n ∈ s.parts) : sizeOf n ≤ sizeOf s := by
  cases s <;> grind [Stmt.parts, → List.sizeOf_lt_of_mem, → Declarator.sizeOf_lt,
    → ClassDef.sizeOf_lt]

/-- A child is smaller than its parent. -/
lemma Node.sizeOf_lt {n c : Node} (h : c ∈ n.children) : sizeOf c < sizeOf n := by
  cases n <;> grind [Node.children, → Expr.sizeOf_le, → ClassMember.sizeOf_le, → Stmt.sizeOf_le]

/-! ### The walk -/

namespace Node

/-- What holds of a node whenever it holds of its children holds of every node. -/
theorem inductionOn {motive : Node → Prop} (n : Node)
    (step : ∀ n : Node, (∀ c ∈ n.children, motive c) → motive n) : motive n :=
  step n fun c _ => inductionOn c step
termination_by sizeOf n
decreasing_by exact sizeOf_lt ‹_›

/-- A node and everything inside it, each node before what it holds. -/
def walk (n : Node) : List Node := n :: n.children.attach.flatMap fun c => walk c.1
termination_by sizeOf n
decreasing_by exact sizeOf_lt c.2

theorem walk_eq (n : Node) : n.walk = n :: n.children.flatMap walk := by
  rw [walk, List.flatMap_subtype fun _ _ => rfl, List.unattach_attach]

/-- A node stands inside another, or is it. -/
def Inside (n c : Node) : Prop := Relation.ReflTransGen (fun a b => b ∈ a.children) n c

/-- The walk meets everything that stands inside a node, and nothing else. -/
theorem mem_walk_iff {n c : Node} : c ∈ n.walk ↔ n.Inside c := by
  induction n using inductionOn with
  | step n ih =>
    rw [walk_eq, List.mem_cons, List.mem_flatMap, Inside, Relation.ReflTransGen.cases_head_iff]
    constructor
    · rintro (rfl | ⟨d, hd, hc⟩)
      · exact .inl rfl
      · exact .inr ⟨d, hd, (ih d hd).mp hc⟩
    · rintro (rfl | ⟨d, hd, hc⟩)
      · exact .inl rfl
      · exact .inr ⟨d, hd, (ih d hd).mpr hc⟩

end Node

/-- All nodes of a module, in the order of the walk. -/
def nodesOf (m : Module) : List Node := m.flatMap fun s => (Node.stmt s).walk

/-- The nodes of a module are what stands inside its items, at whatever depth. -/
theorem mem_nodesOf_iff {m : Module} {n : Node} :
    n ∈ nodesOf m ↔ ∃ s ∈ m, (Node.stmt s).Inside n := by
  simp only [nodesOf, List.mem_flatMap, Node.mem_walk_iff]

end PageConfig.Source
