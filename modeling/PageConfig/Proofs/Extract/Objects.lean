import PageConfig.Proofs.Extract.Omissions

/-!
# Object literals

A path of keys leads into object literals and into nothing else: only they come
to mappings (`exists_object_of_reduction`), and only they have gaps that a key
leads to (`exists_object_of_gap`).  Wrappers around them are not noticed.
`ObjectIn` are the object literals that keys lead to from an expression.
-/

namespace PageConfig.Extract

open PageConfig.Json (Fields)
open PageConfig.Source

variable {e : Expr} {members : List Member}

/-! ### Inside wrappers -/

lemma unwrap_leaf (h : isLeaf e = true) : e.unwrap = e := by
  cases e <;> first | rfl | cases h

lemma reduceAt_unwrap (path : String) (e : Expr) : reduceAt path e.unwrap = reduceAt path e := by
  induction e using literalInduction with
  | leaf e he => rw [unwrap_leaf he]
  | wrapped w e ih => exact ih
  | object members ih => rfl
  | array slots ih => rfl

lemma gapsOf_unwrap (e : Expr) : gapsOf e.unwrap = gapsOf e := by
  induction e using literalInduction with
  | leaf e he => rw [unwrap_leaf he]
  | wrapped w e ih => exact ih
  | object members ih => rfl
  | array slots ih => rfl

/-- An object literal comes to a mapping, in whatever wrappers. -/
lemma reduction_of_object (h : e.unwrap = .object members) :
    reduction e = .value (.object (reduceMembers "" [] members).1) := by
  rw [reduction, ← reduceAt_unwrap, h]
  rfl

lemma gapsOf_of_object (h : e.unwrap = .object members) :
    gapsOf e = partsGaps memberGaps 0 members := by
  rw [← gapsOf_unwrap, h, gapsOf, membersGaps_eq]

/-! ### What comes to nothing -/

/-- What has no literals inside it is undefined only by the name for that, and is no mapping. -/
lemma reduction_leaf (h : isLeaf e = true) :
    (reduction e = .undefined ↔ e = .ident "undefined") ∧
      ∀ fields, reduction e ≠ .value (.object fields) := by
  have hnumber : ∀ x fields, numberValue x ≠ .object fields := by
    intro x fields
    unfold numberValue
    split <;> simp
  cases e with
  | object members => cases h
  | array slots => cases h
  | wrapped w e => cases h
  | ident name =>
    simp only [reduction, reduceAt, reduceName, Expr.ident.injEq]
    grind
  | literal l => cases l <;> simp [reduction, reduceAt, reduceLiteral, hnumber]
  | template chunks parts =>
    simp only [reduction, reduceAt, reduceTemplate]
    grind
  | unary op operand =>
    simp only [reduction, reduceAt, reduceUnary]
    grind
  | _ => simp [reduction, reduceAt]

/-- Only the name for it is undefined, in whatever wrappers. -/
lemma reduction_eq_undefined_iff (e : Expr) :
    reduction e = .undefined ↔ e.unwrap = .ident "undefined" := by
  induction e using literalInduction with
  | leaf e he => rw [unwrap_leaf he, (reduction_leaf he).1]
  | wrapped w e ih => exact ih
  | object members ih => simp [reduction, reduceAt, Expr.unwrap]
  | array slots ih => simp [reduction, reduceAt, Expr.unwrap]

/-- Only an object literal comes to a mapping. -/
lemma exists_object_of_reduction {fields : Fields} (h : reduction e = .value (.object fields)) :
    ∃ members, e.unwrap = .object members := by
  induction e using literalInduction with
  | leaf e he => exact absurd h ((reduction_leaf he).2 fields)
  | wrapped w e ih => exact ih h
  | object members ih => exact ⟨members, rfl⟩
  | array slots ih => simp [reduction, reduceAt] at h

/-- What is undefined or null has no gaps. -/
lemma gapsOf_eq_nil (h : reduction e = .undefined ∨ reduction e = .value .null) :
    gapsOf e = [] := by
  induction e using literalInduction with
  | wrapped w e ih => exact ih h
  | object members ih => simp [reduction, reduceAt] at h
  | array slots ih => simp [reduction, reduceAt] at h
  | leaf e he =>
    have hkind := (reduceAt_leaf "" he).1
    change (reduction e).kind? = _ at hkind
    rw [gapsOf_leaf he, ← hkind]
    rcases h with h | h <;> rw [h] <;> rfl

/-- The gaps of a member as seen from its key. -/
def gapsBelow : Member → List Gap
  | .pair _ v => gapsOf v
  | .shorthand _ => [.here .reference]
  | .shorthandDefault _ _ => [.here .assignment]
  | .method kind _ _ _ => [.here (methodKind kind)]
  | .spread _ => [.here .spread]

/-- The gaps of a member with a key are below that key. -/
lemma memberGaps_of_key {m : Member} {k : String} (h : m.key? = some k) (i : Nat) :
    memberGaps i m = (gapsBelow m).map (Gap.under i (.key k)) := by
  cases m with
  | pair key v =>
    rw [Member.key?] at h
    simp only [memberGaps, gapsBelow, h]
  | method kind key parts place =>
    rw [Member.key?] at h
    simp [memberGaps, gapsBelow, h]
  | shorthand name =>
    cases h
    rfl
  | shorthandDefault name v =>
    cases h
    rfl
  | spread v => cases h

/-- Only an object literal has a gap that a key leads to. -/
lemma exists_object_of_gap {g : Gap} (hg : g ∈ gapsOf e) {k : String} {steps : List Step}
    (h : g.steps = .key k :: steps) : ∃ members, e.unwrap = .object members := by
  induction e using literalInduction with
  | leaf e he =>
    rw [gapsOf_leaf he] at hg
    obtain ⟨kind, -, rfl⟩ := List.mem_map.mp hg
    cases h
  | wrapped w e ih => exact ih hg
  | object members ih => exact ⟨members, rfl⟩
  | array slots ih =>
    rw [mem_gapsOf] at hg
    cases hg with
    | here h => cases h
    | array hs hgap => cases hgap <;> cases h

/-- The way to a gap of an object literal starts with a key. -/
lemma exists_key_of_mem_gapsOf (h : e.unwrap = .object members) {g : Gap} (hg : g ∈ gapsOf e) :
    ∃ k steps, g.steps = .key k :: steps := by
  rw [← gapsOf_unwrap, h, mem_gapsOf] at hg
  cases hg with
  | here hkind => cases hkind
  | object hm hgap => cases hgap <;> exact ⟨_, _, rfl⟩

/-! ### Object literals inside an expression -/

/-- An object literal inside an expression: the expression itself or a value in it, in whatever
wrappers and at whatever depth. -/
inductive ObjectIn : Expr → List Member → Prop where
  | here {e : Expr} {members : List Member} (h : e.unwrap = .object members) : ObjectIn e members
  | inside {e v : Expr} {members inner : List Member} {key : Key} (h : e.unwrap = .object members)
      (hv : .pair key v ∈ members) (hinner : ObjectIn v inner) : ObjectIn e inner

lemma objectIn_wrapped {w : Wrapper} {e : Expr} {inner : List Member} :
    ObjectIn (.wrapped w e) inner ↔ ObjectIn e inner := by
  constructor
  · rintro (h | ⟨h, hv, hinner⟩)
    · exact .here h
    · exact .inside h hv hinner
  · rintro (h | ⟨h, hv, hinner⟩)
    · exact .here h
    · exact .inside h hv hinner

lemma objectIn_object {members inner : List Member} :
    ObjectIn (.object members) inner
      ↔ inner = members ∨ ∃ key v, .pair key v ∈ members ∧ ObjectIn v inner := by
  constructor
  · rintro (h | ⟨h, hv, hinner⟩)
    · exact .inl (Expr.object.inj h).symm
    · exact .inr ⟨_, _, (Expr.object.inj h) ▸ hv, hinner⟩
  · rintro (rfl | ⟨key, v, hv, hinner⟩)
    · exact .here rfl
    · exact .inside rfl hv hinner

lemma not_objectIn_leaf {e : Expr} (he : isLeaf e = true) (inner : List Member) :
    ¬ ObjectIn e inner := by
  rintro (h | ⟨h, -, -⟩)
  all_goals
    rw [unwrap_leaf he] at h
    subst h
    cases he

end PageConfig.Extract
