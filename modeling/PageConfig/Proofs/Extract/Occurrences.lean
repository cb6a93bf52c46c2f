import PageConfig.Extract.Scan
import PageConfig.Proofs.Source.Nodes
import Mathlib.Data.List.Basic

/-!
# Marks are read off the nodes

A scan looks at the marks of a module.  Each mark belongs to one node, and the
marks of a module are those of its nodes in the order of the walk
(`stmtsMarks_eq`).  So whatever a scan depends on can be stated as: some node
of the module is of this form, and it is the first or the last one.
-/

namespace PageConfig.Extract

open PageConfig.Source

/-! ### The marks of one node -/

/-- The marks that a node itself leaves, apart from those of its children. -/
def ownMarks : Node → List Mark
  | .expr (.assign plain target value) => assignmentMark plain target value
  | .expr (.element tag _ _) => tagMark tag
  | .expr _ => []
  | .classMember (.field key value _) => fieldMark key value
  | .classMember _ => []
  | .stmt (.imports bindings source _) => bindings.map fun b => .binding b.isDefault b.name source
  | .stmt (.exportNames defaults) => defaults.map fun name => .exportName (some name)
  | .stmt (.exportDecl name _) => [.exportName name]
  | .stmt (.exportExpr e) => exportMark e
  | .stmt _ => []

/-- A node leaves a mark of its own. -/
inductive Leaves : Node → Mark → Prop where
  | tag {name : String} {attributes children : List Expr} :
    Leaves (.expr (.element (.plain name) attributes children)) (.tag name)
  | assignment {object : String} {key : Access} {value : Expr} (hkey : isConfigAccess key = true) :
    Leaves (.expr (.assign true (.member (.ident object) key) value)) (.assignment object value)
  | field {key : Key} {value : Expr} {annotations : List Expr}
    (hkey : keyText? key = some configName) :
    Leaves (.classMember (.field key (some value) annotations)) (.field value)
  | exportNames {defaults : List String} {name : String} (hname : name ∈ defaults) :
    Leaves (.stmt (.exportNames defaults)) (.exportName (some name))
  | exportDecl {name : Option String} {decl : Stmt} :
    Leaves (.stmt (.exportDecl name decl)) (.exportName name)
  | exportExpr {e : Expr} {name : String} (he : e.unwrap = .ident name) :
    Leaves (.stmt (.exportExpr e)) (.exportName (some name))
  | binding {bindings types : List Binding} {b : Binding} {source : String} (hb : b ∈ bindings) :
    Leaves (.stmt (.imports bindings source types)) (.binding b.isDefault b.name source)

lemma leaves_of_mem_assignmentMark {plain : Bool} {target value : Expr} {k : Mark}
    (h : k ∈ assignmentMark plain target value) :
    Leaves (.expr (.assign plain target value)) k := by
  fun_cases assignmentMark plain target value with
  | case1 object key hkey =>
    obtain rfl : k = .assignment object value := by simpa [assignmentMark, hkey] using h
    exact .assignment hkey
  | _ => simp_all [assignmentMark]

lemma leaves_of_mem_fieldMark {key : Key} {value : Option Expr} {annotations : List Expr} {k : Mark}
    (h : k ∈ fieldMark key value) : Leaves (.classMember (.field key value annotations)) k := by
  fun_cases fieldMark key value with
  | case1 v hkey =>
    obtain rfl : k = .field v := by simpa [fieldMark, hkey] using h
    exact .field hkey
  | _ => simp_all [fieldMark]

lemma leaves_of_mem_exportMark {e : Expr} {k : Mark} (h : k ∈ exportMark e) :
    Leaves (.stmt (.exportExpr e)) k := by
  fun_cases exportMark e with
  | case1 name he =>
    obtain rfl : k = .exportName (some name) := by simpa [exportMark, he] using h
    exact .exportExpr he
  | _ => simp_all [exportMark]

/-- The marks of a node are those that it leaves. -/
lemma mem_ownMarks_iff {n : Node} {k : Mark} : k ∈ ownMarks n ↔ Leaves n k := by
  constructor
  · intro h
    fun_cases ownMarks n with
    | case1 plain target value => exact leaves_of_mem_assignmentMark h
    | case2 tag => cases tag <;> simp_all [ownMarks, tagMark, Leaves.tag]
    | case4 key value => exact leaves_of_mem_fieldMark h
    | case6 bindings source =>
      obtain ⟨b, hb, rfl⟩ := List.mem_map.mp h
      exact .binding hb
    | case7 defaults =>
      obtain ⟨name, hname, rfl⟩ := List.mem_map.mp h
      exact .exportNames hname
    | case8 name decl =>
      obtain rfl := List.mem_singleton.mp h
      exact .exportDecl
    | case9 e => exact leaves_of_mem_exportMark h
    | _ => simp_all [ownMarks]
  · rintro ⟨⟩
    case binding hb => exact List.mem_map.mpr ⟨_, hb, rfl⟩
    all_goals simp_all [ownMarks, tagMark, assignmentMark, fieldMark, exportMark]

/-! ### Lists of parts -/

/-- The marks of a node, with those of everything inside it. -/
def nodeMarks : Node → List Mark
  | .expr e => exprMarks e
  | .classMember m => classMemberMarks m
  | .stmt s => stmtMarks s

lemma exprsMarks_eq (es : List Expr) : exprsMarks es = (es.map Node.expr).flatMap nodeMarks := by
  induction es with
  | nil => rfl
  | cons e es ih => rw [exprsMarks, ih, List.map_cons, List.flatMap_cons, nodeMarks]

lemma stmtsMarks_eq_flatMap (ss : List Stmt) :
    stmtsMarks ss = (ss.map Node.stmt).flatMap nodeMarks := by
  induction ss with
  | nil => rfl
  | cons s ss ih => rw [stmtsMarks, ih, List.map_cons, List.flatMap_cons, nodeMarks]

lemma classMembersMarks_eq (ms : List ClassMember) :
    classMembersMarks ms = (ms.map Node.classMember).flatMap nodeMarks := by
  induction ms with
  | nil => rfl
  | cons m ms ih => rw [classMembersMarks, ih, List.map_cons, List.flatMap_cons, nodeMarks]

lemma optionMarks_eq (o : Option Expr) :
    optionMarks o = (o.toList.map Node.expr).flatMap nodeMarks := by
  cases o <;> simp [optionMarks, nodeMarks]

lemma keyMarks_eq (k : Key) : keyMarks k = (k.parts.map Node.expr).flatMap nodeMarks := by
  cases k <;> simp [keyMarks, Key.parts, nodeMarks]

lemma optionKeyMarks_eq (k : Option Key) :
    optionKeyMarks k = ((k.toList.flatMap Key.parts).map Node.expr).flatMap nodeMarks := by
  cases k with
  | none => rfl
  | some k => simp [optionKeyMarks, keyMarks_eq]

lemma accessMarks_eq (a : Access) : accessMarks a = (a.parts.map Node.expr).flatMap nodeMarks := by
  cases a <;> simp [accessMarks, Access.parts, nodeMarks]

lemma wrapperMarks_eq (w : Wrapper) :
    wrapperMarks w = (w.parts.map Node.expr).flatMap nodeMarks := by
  cases w <;> simp [wrapperMarks, Wrapper.parts, exprsMarks_eq]

lemma slotsMarks_eq (slots : List Slot) :
    slotsMarks slots = ((slots.flatMap Slot.parts).map Node.expr).flatMap nodeMarks := by
  induction slots with
  | nil => rfl
  | cons s slots ih => cases s <;> simp [slotsMarks, slotMarks, Slot.parts, nodeMarks, ih]

lemma declaratorsMarks_eq (ds : List Declarator) :
    declaratorsMarks ds = ((ds.flatMap Declarator.parts).map Node.expr).flatMap nodeMarks := by
  induction ds with
  | nil => rfl
  | cons d ds ih =>
    cases d <;>
      simp [declaratorsMarks, declaratorMarks, Declarator.parts, exprsMarks_eq, optionMarks_eq, ih]

lemma membersMarks_eq (ms : List Member) :
    membersMarks ms = (ms.flatMap Member.parts).flatMap nodeMarks := by
  induction ms with
  | nil => rfl
  | cons m ms ih =>
    cases m <;>
      simp [membersMarks, memberMarks, Member.parts, nodeMarks, keyMarks_eq,
        stmtsMarks_eq_flatMap, ih]

lemma classMarks_eq (body : ClassDef) : classMarks body = body.parts.flatMap nodeMarks := by
  cases body
  simp [classMarks, ClassDef.parts, exprsMarks_eq, classMembersMarks_eq, optionMarks_eq]

/-! ### Trees and modules -/

/-- The marks of a node are its own and then those of its children. -/
lemma nodeMarks_eq_append (n : Node) :
    nodeMarks n = ownMarks n ++ n.children.flatMap nodeMarks := by
  cases n with
  | expr e =>
    cases e <;>
      simp [nodeMarks, exprMarks, ownMarks, Node.children, Expr.parts, exprsMarks_eq,
        membersMarks_eq, slotsMarks_eq, accessMarks_eq, wrapperMarks_eq, stmtsMarks_eq_flatMap,
        classMarks_eq]
  | classMember m =>
    cases m <;>
      simp [nodeMarks, classMemberMarks, ownMarks, Node.children, ClassMember.parts, keyMarks_eq,
        optionMarks_eq, exprsMarks_eq, optionKeyMarks_eq, stmtsMarks_eq_flatMap]
  | stmt s =>
    cases s <;>
      simp [nodeMarks, stmtMarks, ownMarks, Node.children, Stmt.parts, declaratorsMarks_eq,
        classMarks_eq, stmtsMarks_eq_flatMap]

/-- The marks of a node are those that the nodes of its walk leave, in order. -/
theorem nodeMarks_eq (n : Node) : nodeMarks n = n.walk.flatMap ownMarks := by
  induction n using Node.inductionOn with
  | step n ih =>
    rw [nodeMarks_eq_append, Node.walk_eq, List.flatMap_cons, List.flatMap_assoc,
      List.flatMap_congr ih]

/-- The marks of a module are those that its nodes leave, in the order of the walk. -/
theorem stmtsMarks_eq (m : Module) : stmtsMarks m = (nodesOf m).flatMap ownMarks := by
  rw [stmtsMarks_eq_flatMap, nodesOf, List.flatMap_assoc, List.flatMap_map]
  exact List.flatMap_congr fun s _ => nodeMarks_eq (.stmt s)

end PageConfig.Extract
