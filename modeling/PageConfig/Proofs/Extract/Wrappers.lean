import PageConfig.Extract.Reduce
import PageConfig.Proofs.Source.Nodes
import Mathlib.Data.List.Basic

/-!
# Wrappers leave no trace

Parentheses, casts of every kind, `satisfies` and `!` say nothing about the
value of what they are put around.  `Expr.strip` takes them out of an
expression at every depth: around the values of members, the items of lists,
operands, computed keys and the expression itself, and also inside functions,
classes and elements.  What is written in the type of a wrapper goes with it.
Nothing else is taken out: the walk over what is left is the walk over the
expression without the wrappers (`Node.walk_strip`).

Reduction looks through wrappers at each place where it looks at the form of an
expression, so what is left comes to the same value with the same omissions.
-/

namespace PageConfig.Source

/-! ### Taking wrappers out -/

mutual

/-- The expression without any wrapper in it. -/
def Expr.strip : Expr → Expr
  | .ident name => .ident name
  | .literal value => .literal value
  | .template chunks parts => .template chunks (stripExprs parts)
  | .object members => .object (stripMembers members)
  | .array slots => .array (stripSlots slots)
  | .unary op operand => .unary op operand.strip
  | .member target key => .member target.strip key.strip
  | .assign plain target value => .assign plain target.strip value.strip
  | .wrapped _ inner => inner.strip
  | .function isArrow parts result => .function isArrow (stripStmts parts) (stripExprs result)
  | .classExpr body => .classExpr body.strip
  | .element tag attributes children => .element tag (stripExprs attributes) (stripExprs children)
  | .compound form parts => .compound form (stripExprs parts)

/-- Expressions without any wrapper in them. -/
def stripExprs : List Expr → List Expr
  | [] => []
  | e :: es => e.strip :: stripExprs es

/-- An expression that may be missing, without any wrapper in it. -/
def stripOption : Option Expr → Option Expr
  | none => none
  | some e => some e.strip

/-- A key without any wrapper in it. -/
def Key.strip : Key → Key
  | .name s => .name s
  | .string s => .string s
  | .number x => .number x
  | .bigint => .bigint
  | .computed e => .computed e.strip

/-- A key that may be missing, without any wrapper in it. -/
def stripOptionKey : Option Key → Option Key
  | none => none
  | some k => some k.strip

/-- What selects a member, without any wrapper in it. -/
def Access.strip : Access → Access
  | .name s => .name s
  | .hidden s => .hidden s
  | .computed e => .computed e.strip

/-- A member of an object without any wrapper in it. -/
def Member.strip : Member → Member
  | .pair key value => .pair key.strip value.strip
  | .shorthand name => .shorthand name
  | .shorthandDefault name value => .shorthandDefault name value.strip
  | .method kind key parts place => .method kind key.strip (stripStmts parts) place
  | .spread value => .spread value.strip

/-- The members of an object without any wrapper in them. -/
def stripMembers : List Member → List Member
  | [] => []
  | m :: ms => m.strip :: stripMembers ms

/-- A place of an array without any wrapper in it. -/
def Slot.strip : Slot → Slot
  | .hole => .hole
  | .item value => .item value.strip
  | .spread value => .spread value.strip

/-- The places of an array without any wrapper in them. -/
def stripSlots : List Slot → List Slot
  | [] => []
  | s :: ss => s.strip :: stripSlots ss

/-- A class without any wrapper in it. -/
def ClassDef.strip : ClassDef → ClassDef
  | .mk decorators members superclass types =>
    .mk (stripExprs decorators) (stripClassMembers members) (stripOption superclass)
      (stripExprs types)

/-- A member of a class without any wrapper in it. -/
def ClassMember.strip : ClassMember → ClassMember
  | .field key value annotations => .field key.strip (stripOption value) (stripExprs annotations)
  | .hiddenField parts => .hiddenField (stripExprs parts)
  | .method key parts => .method (stripOptionKey key) (stripStmts parts)

/-- The members of a class without any wrapper in them. -/
def stripClassMembers : List ClassMember → List ClassMember
  | [] => []
  | m :: ms => m.strip :: stripClassMembers ms

/-- A variable without any wrapper in it. -/
def Declarator.strip : Declarator → Declarator
  | .plain name value => .plain name (stripOption value)
  | .pattern parts value => .pattern (stripExprs parts) (stripOption value)

/-- Variables without any wrapper in them. -/
def stripDeclarators : List Declarator → List Declarator
  | [] => []
  | d :: ds => d.strip :: stripDeclarators ds

/-- A statement without any wrapper in it. -/
def Stmt.strip : Stmt → Stmt
  | .expr e => .expr e.strip
  | .vars declarators => .vars (stripDeclarators declarators)
  | .classDecl body => .classDecl body.strip
  | .functionDecl parts => .functionDecl (stripStmts parts)
  | .group parts => .group (stripStmts parts)
  | .imports bindings source types => .imports bindings source types
  | .exported decl => .exported decl.strip
  | .exportNames defaults => .exportNames defaults
  | .exportDecl name decl => .exportDecl name decl.strip
  | .exportExpr e => .exportExpr e.strip

/-- Statements without any wrapper in them. -/
def stripStmts : List Stmt → List Stmt
  | [] => []
  | s :: ss => s.strip :: stripStmts ss

end

/-! ### Nothing else is taken out -/

lemma stripExprs_eq (es : List Expr) : stripExprs es = es.map Expr.strip := by
  induction es with
  | nil => rfl
  | cons e es ih => rw [stripExprs, ih, List.map_cons]

lemma stripStmts_eq (ss : List Stmt) : stripStmts ss = ss.map Stmt.strip := by
  induction ss with
  | nil => rfl
  | cons s ss ih => rw [stripStmts, ih, List.map_cons]

lemma stripClassMembers_eq (ms : List ClassMember) :
    stripClassMembers ms = ms.map ClassMember.strip := by
  induction ms with
  | nil => rfl
  | cons m ms ih => rw [stripClassMembers, ih, List.map_cons]

namespace Node

/-- A node without any wrapper in it. -/
def strip : Node → Node
  | .expr e => .expr e.strip
  | .classMember m => .classMember m.strip
  | .stmt s => .stmt s.strip

/-- Whether a node is a wrapper around another. -/
def isWrapper : Node → Bool
  | .expr (.wrapped _ _) => true
  | _ => false

/-- What is written in the type of a node, if it is a wrapper. -/
def typeParts : Node → List Expr
  | .expr (.wrapped wrapper _) => wrapper.parts
  | _ => []

/-- The nodes right below a node, but for what is written in its type if it is a wrapper. -/
def bareChildren : Node → List Node
  | .expr (.wrapped _ inner) => [.expr inner]
  | n => n.children

lemma bareChildren_of_not_isWrapper {n : Node} (h : n.isWrapper = false) :
    n.bareChildren = n.children := by
  cases n with
  | expr e =>
    cases e with
    | wrapped w inner => cases h
    | _ => rfl
  | _ => rfl

/-- A node has no more below it than these and what is written in its type. -/
lemma children_eq (n : Node) : n.children = n.bareChildren ++ n.typeParts.map .expr := by
  cases n with
  | expr e => cases e <;> simp [children, bareChildren, typeParts, Expr.parts]
  | _ => simp [bareChildren, typeParts]

lemma mem_children_of_mem_bareChildren {n c : Node} (h : c ∈ n.bareChildren) : c ∈ n.children := by
  rw [children_eq]
  exact List.mem_append_left _ h

/-- A node and everything inside it but what is written in the types of wrappers, each node before
what it holds. -/
def bareWalk (n : Node) : List Node := n :: n.bareChildren.attach.flatMap fun c => bareWalk c.1
termination_by sizeOf n
decreasing_by exact sizeOf_lt (mem_children_of_mem_bareChildren c.2)

theorem bareWalk_eq (n : Node) : n.bareWalk = n :: n.bareChildren.flatMap bareWalk := by
  rw [bareWalk, List.flatMap_subtype fun _ _ => rfl, List.unattach_attach]

/-- If nothing is written in the types of wrappers, nothing is left out. -/
lemma bareWalk_eq_walk {n : Node} (h : ∀ c ∈ n.walk, c.typeParts = []) : n.bareWalk = n.walk := by
  induction n using inductionOn with
  | step n ih =>
    have hmem : ∀ {c d : Node}, c ∈ n.children → d ∈ c.walk → d ∈ n.walk := by
      intro c d hc hd
      rw [walk_eq]
      exact List.mem_cons_of_mem n (List.mem_flatMap.mpr ⟨c, hc, hd⟩)
    have hself : n.typeParts = [] := h n (by rw [walk_eq]; exact List.mem_cons_self)
    have hchildren : n.children = n.bareChildren := by
      rw [children_eq, hself, List.map_nil, List.append_nil]
    rw [bareWalk_eq, walk_eq, ← hchildren]
    exact congrArg _ (List.flatMap_congr fun c hc => ih c hc fun d hd => h d (hmem hc hd))

end Node

lemma Key.parts_strip (k : Key) : k.strip.parts = k.parts.map Expr.strip := by
  cases k <;> rfl

lemma Access.parts_strip (a : Access) : a.strip.parts = a.parts.map Expr.strip := by
  cases a <;> rfl

lemma parts_stripSlots (ss : List Slot) :
    (stripSlots ss).flatMap Slot.parts = (ss.flatMap Slot.parts).map Expr.strip := by
  induction ss with
  | nil => rfl
  | cons s ss ih => cases s <;> simp [stripSlots, Slot.strip, Slot.parts, ih]

lemma parts_stripDeclarators (ds : List Declarator) :
    (stripDeclarators ds).flatMap Declarator.parts
      = (ds.flatMap Declarator.parts).map Expr.strip := by
  induction ds with
  | nil => rfl
  | cons d ds ih =>
    cases d with
    | plain name value =>
      cases value <;> simp [stripDeclarators, Declarator.strip, Declarator.parts, stripOption, ih]
    | pattern parts value =>
      cases value <;>
        simp [stripDeclarators, Declarator.strip, Declarator.parts, stripOption, stripExprs_eq, ih]

lemma Member.parts_strip (m : Member) : m.strip.parts = m.parts.map Node.strip := by
  cases m <;> simp [Member.strip, Member.parts, Node.strip, Key.parts_strip, stripStmts_eq,
    Function.comp_def]

lemma parts_stripMembers (ms : List Member) :
    (stripMembers ms).flatMap Member.parts = (ms.flatMap Member.parts).map Node.strip := by
  induction ms with
  | nil => rfl
  | cons m ms ih => simp [stripMembers, Member.parts_strip, ih]

lemma ClassDef.parts_strip (body : ClassDef) : body.strip.parts = body.parts.map Node.strip := by
  obtain ⟨decorators, members, superclass, types⟩ := body
  cases superclass <;>
    simp [ClassDef.strip, ClassDef.parts, Node.strip, stripExprs_eq, stripClassMembers_eq,
      stripOption, Function.comp_def]

namespace Node

/-- What stands right inside a node that is no wrapper stays there. -/
lemma children_strip {n : Node} (h : n.isWrapper = false) :
    n.strip.children = n.children.map strip := by
  cases n with
  | expr e =>
    cases e <;> simp_all [strip, isWrapper, children, Expr.strip, Expr.parts, stripExprs_eq,
      stripStmts_eq, parts_stripMembers, parts_stripSlots, Access.parts_strip,
      ClassDef.parts_strip, Function.comp_def]
  | classMember m =>
    cases m with
    | field key value annotations =>
      cases value <;> simp [strip, children, ClassMember.strip, ClassMember.parts, Key.parts_strip,
        stripExprs_eq, stripOption, Function.comp_def]
    | hiddenField parts =>
      simp [strip, children, ClassMember.strip, ClassMember.parts, stripExprs_eq,
        Function.comp_def]
    | method key parts =>
      cases key <;> simp [strip, children, ClassMember.strip, ClassMember.parts, Key.parts_strip,
        stripOptionKey, stripStmts_eq, Function.comp_def]
  | stmt s =>
    cases s <;> simp [strip, children, Stmt.strip, Stmt.parts, parts_stripDeclarators,
      ClassDef.parts_strip, stripStmts_eq, Function.comp_def]

/-- The walk over a node without its wrappers is the walk over the node, wrappers left out with
their types. -/
theorem walk_strip (n : Node) :
    n.strip.walk = (n.bareWalk.filter fun c => !c.isWrapper).map strip := by
  induction n using inductionOn with
  | step n ih =>
    cases hn : n.isWrapper with
    | true =>
      obtain ⟨w, inner, rfl⟩ : ∃ w inner, n = .expr (.wrapped w inner) := by
        cases n with
        | expr e => cases e <;> simp_all [isWrapper]
        | classMember m => simp [isWrapper] at hn
        | stmt s => simp [isWrapper] at hn
      have hinner := ih (.expr inner) (by simp [children, Expr.parts])
      rw [bareWalk_eq (.expr (.wrapped w inner)), List.filter_cons_of_neg (by simp [hn])]
      simpa [bareChildren, strip, Expr.strip] using hinner
    | false =>
      rw [bareWalk_eq n, walk_eq n.strip, List.filter_cons_of_pos (by simp [hn]), List.map_cons,
        children_strip hn, bareChildren_of_not_isWrapper hn, List.filter_flatMap,
        List.map_flatMap, List.flatMap_map]
      exact congrArg _ (List.flatMap_congr ih)

/-- No wrapper is left. -/
lemma isWrapper_of_mem_walk_strip {n c : Node} (h : c ∈ n.strip.walk) : c.isWrapper = false := by
  rw [walk_strip] at h
  obtain ⟨d, hd, rfl⟩ := List.mem_map.mp h
  have hd : d.isWrapper = false := by simpa using (List.mem_filter.mp hd).2
  cases d with
  | expr e => cases e <;> simp_all [strip, Expr.strip, isWrapper]
  | classMember m => rfl
  | stmt s => rfl

end Node

/-! ### What reduction looks at -/

/-- The literal inside every wrapper, if there is one. -/
def Expr.literal? (e : Expr) : Option Literal :=
  match e.unwrap with
  | .literal l => some l
  | _ => none

/-- Wrappers do not hide a literal. -/
lemma Expr.literal?_strip : ∀ e : Expr, e.strip.literal? = e.literal?
  | .ident _ => rfl
  | .literal _ => rfl
  | .template _ _ => rfl
  | .object _ => rfl
  | .array _ => rfl
  | .unary _ _ => rfl
  | .member _ _ => rfl
  | .assign _ _ _ => rfl
  | .wrapped _ inner => literal?_strip inner
  | .function _ _ _ => rfl
  | .classExpr _ => rfl
  | .element _ _ _ => rfl
  | .compound _ _ => rfl

end PageConfig.Source

namespace PageConfig.Extract

open PageConfig.Json (Fields)
open PageConfig.Source

/-- A computed key can be told if it is a string, in whatever wrappers. -/
lemma keyText?_computed (e : Expr) :
    keyText? (.computed e) = match e.literal? with
      | some (.string s) => some s
      | _ => none := by
  rw [keyText?, Expr.literal?]
  cases e.unwrap with
  | literal l => cases l <;> rfl
  | _ => rfl

/-- Only a number has a sign, in whatever wrappers. -/
lemma reduceUnary_eq (op : UnaryOp) (e : Expr) :
    reduceUnary op e = match op, e.literal? with
      | .minus, some (.number x) => .value (numberValue x.neg)
      | .plus, some (.number x) => .value (numberValue x)
      | _, _ => .nonLiteral .unary := by
  unfold reduceUnary Expr.literal?
  cases e.unwrap with
  | literal l => cases op <;> cases l <;> rfl
  | _ => cases op <;> rfl

lemma keyText?_strip (k : Key) : keyText? k.strip = keyText? k := by
  cases k with
  | computed e => rw [Key.strip, keyText?_computed, keyText?_computed, Expr.literal?_strip]
  | _ => rfl

lemma reduceUnary_strip (op : UnaryOp) (e : Expr) :
    reduceUnary op e.strip = reduceUnary op e := by
  rw [reduceUnary_eq, reduceUnary_eq, Expr.literal?_strip]

lemma reduceTemplate_strip (chunks : List (Option String)) (parts : List Expr) :
    reduceTemplate chunks (stripExprs parts) = reduceTemplate chunks parts := by
  rw [reduceTemplate, reduceTemplate, stripExprs_eq, List.isEmpty_map]

mutual

/-- An expression comes to the same without its wrappers, wherever it stands. -/
lemma reduceAt_strip (path : String) : ∀ e : Expr, reduceAt path e.strip = reduceAt path e
  | .wrapped _ inner => by rw [Expr.strip, reduceAt, reduceAt_strip path inner]
  | .object members => by
    rw [Expr.strip, reduceAt, reduceAt, reduceMembers_strip path [] members]
  | .array slots => by rw [Expr.strip, reduceAt, reduceAt, reduceSlots_strip path 0 slots]
  | .literal _ => rfl
  | .template chunks parts => by
    rw [Expr.strip, reduceAt, reduceAt, reduceTemplate_strip chunks parts]
  | .unary op operand => by rw [Expr.strip, reduceAt, reduceAt, reduceUnary_strip op operand]
  | .ident _ => rfl
  | .member _ _ => rfl
  | .function _ _ _ => rfl
  | .compound _ _ => rfl
  | .assign _ _ _ => rfl
  | .classExpr _ => rfl
  | .element _ _ _ => rfl

/-- A mapping comes to the same without its wrappers. -/
lemma reduceMembers_strip (path : String) (before : Fields) : ∀ members : List Member,
    reduceMembers path before (stripMembers members) = reduceMembers path before members
  | [] => rfl
  | m :: ms => by
    simp only [stripMembers, reduceMembers, reduceMember_strip path before m,
      reduceMembers_strip path _ ms]

/-- A member adds the same without its wrappers. -/
lemma reduceMember_strip (path : String) (before : Fields) : ∀ m : Member,
    reduceMember path before m.strip = reduceMember path before m
  | .pair key value => by
    rw [Member.strip, reduceMember, reduceMember, keyText?_strip]
    cases keyText? key with
    | none => rfl
    | some k => simp only [reduceAt_strip (childPath path k) value]
  | .shorthand _ => rfl
  | .shorthandDefault _ _ => rfl
  | .method kind key parts place => by
    rw [Member.strip, reduceMember, reduceMember, keyText?_strip]
  | .spread _ => rfl

/-- A list comes to the same without its wrappers. -/
lemma reduceSlots_strip (path : String) (index : Nat) : ∀ slots : List Slot,
    reduceSlots path index (stripSlots slots) = reduceSlots path index slots
  | [] => rfl
  | s :: ss => by
    rw [stripSlots, reduceSlots, reduceSlots, reduceSlot_strip path index s,
      reduceSlots_strip path (index + 1) ss]

/-- A place of a list comes to the same without its wrappers. -/
lemma reduceSlot_strip (path : String) (index : Nat) : ∀ s : Slot,
    reduceSlot path index s.strip = reduceSlot path index s
  | .hole => rfl
  | .item value => by
    rw [Slot.strip, reduceSlot, reduceSlot, reduceAt_strip (itemPath path index) value]
  | .spread _ => rfl

end

/-- **Wrappers leave no trace.**  Take every wrapper out of an expression, at every depth: no
wrapper is left, every other node is still there in its place, but for what is written in the types
of wrappers, and what is left comes to the same value with the same omissions, each with the same
path and kind. -/
theorem wrappers_transparent (e : Expr) :
    (∀ n ∈ (Node.expr e.strip).walk, n.isWrapper = false) ∧
      (Node.expr e.strip).walk
        = ((Node.expr e).bareWalk.filter fun n => !n.isWrapper).map Node.strip ∧
      ((∀ n ∈ (Node.expr e).walk, n.typeParts = []) →
        (Node.expr e).bareWalk = (Node.expr e).walk) ∧
      reduce e.strip = reduce e := by
  refine ⟨fun n hn => ?_, Node.walk_strip (.expr e), Node.bareWalk_eq_walk, ?_⟩
  · have hn : n ∈ (Node.expr e).strip.walk := hn
    exact Node.isWrapper_of_mem_walk_strip hn
  · rw [reduce, reduce, reduceAt_strip]

end PageConfig.Extract
