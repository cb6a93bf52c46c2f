import Mathlib.Data.List.Pairwise
import PageConfig.Proofs.Extract.Objects
import PageConfig.Proofs.Project.KeyPaths

/-!
# What a build config sets

Whether a build config sets a path of keys is decided on what the config comes
to: the path leads to a value in it, or the text of some omission leads through
the path.  Here this is tied to the source.  `Sets` goes down the object
literals of the source, and `isSet` answers the same as long as keys are
identifiers and none of them has two values (`isSet_iff_sets`).

In between stands `Present`, which looks at values and gaps and at no text.  It
goes down an object literal one key at a time (`present_cons_iff`), and ends at
whatever is neither undefined nor null (`present_nil_iff`).
-/

namespace PageConfig.Project

open PageConfig.Extract
open PageConfig.Json (Value Fields)
open PageConfig.Source (Expr Key Member)

/-! ### The source -/

/-- A member that is a spread, or has a plain identifier for its name. -/
def NamedPlainly (m : Member) : Prop :=
  (∃ v, m = .spread v) ∨ ∃ k, m.key? = some k ∧ IsIdentifier k

/-- An object literal whose names are plain identifiers, and in which no key has two values. -/
structure PlainObject (members : List Member) : Prop where
  names : ∀ m ∈ members, NamedPlainly m
  unrepeated : ∀ key v key' v', Member.pair key v ∈ members → .pair key' v' ∈ members →
    keyText? key = keyText? key' → v = v'

/-- An object literal that repeats no key at all gives none of them two values. -/
lemma PlainObject.of_nodup {members : List Member} (names : ∀ m ∈ members, NamedPlainly m)
    (hnodup : (members.filterMap Member.key?).Nodup) : PlainObject members := by
  refine ⟨names, fun key v key' v' hv hv' hkeys => ?_⟩
  have hdistinct : members.Pairwise fun m n => ∀ k ∈ m.key?, ∀ k' ∈ n.key?, k ≠ k' :=
    List.pairwise_filterMap.mp hnodup
  by_contra hne
  have hpair : Member.pair key v ≠ .pair key' v' := fun h => hne (Member.pair.inj h).2
  obtain ⟨_, ⟨⟩⟩ | ⟨k, hk, -⟩ := names _ hv
  have hsymm : Std.Symm fun m n : Member => ∀ k ∈ m.key?, ∀ k' ∈ n.key?, k ≠ k' :=
    ⟨fun m n h k hk k' hk' => (h k' hk' k hk).symm⟩
  exact hdistinct.forall hv hv' hpair k hk k (hkeys.symm.trans hk) rfl

/-- Whether a member sets its key: a value does that is neither undefined nor null, and so does a
member whose value is not told. -/
def SetsKey : Member → Prop
  | .pair _ v => v.unwrap ≠ .ident "undefined" ∧ reduction v ≠ .value .null
  | .shorthand _ => True
  | .shorthandDefault _ _ => True
  | .method _ _ _ _ => True
  | .spread _ => False

/-- A path of keys leads down nested object literals, to a member that sets the last key. -/
inductive Sets : List Member → List String → Prop where
  | own {members : List Member} {m : Member} {k : String} (hm : m ∈ members)
      (hk : m.key? = some k) (h : SetsKey m) : Sets members [k]
  | inside {members inner : List Member} {key : Key} {v : Expr} {k : String} {ks : List String}
      (hm : .pair key v ∈ members) (hk : keyText? key = some k) (hv : v.unwrap = .object inner)
      (h : Sets inner ks) : Sets members (k :: ks)

variable {e : Expr} {members : List Member} {k : String} {keys : List String}

/-! ### Values and gaps -/

/-- A path of keys leads to a value other than null. -/
def Valued (e : Expr) (keys : List String) : Prop :=
  ∃ v w, reduction e = .value v ∧ valueAt v keys = some w ∧ w.isNull = false

/-- The way to some gap leads through a path of keys. -/
def Gapped (e : Expr) (keys : List String) : Prop :=
  ∃ g ∈ gapsOf e, keys.map Step.key <+: g.steps

/-- A path of keys leads to a value other than null, or to something that is no literal. -/
def Present (e : Expr) (keys : List String) : Prop := Valued e keys ∨ Gapped e keys

/-- **The end of a path**: anything is present that is neither undefined nor null. -/
lemma present_nil_iff (e : Expr) :
    Present e [] ↔ e.unwrap ≠ .ident "undefined" ∧ reduction e ≠ .value .null := by
  rw [ne_eq, ← reduction_eq_undefined_iff]
  have hgapped : Gapped e [] ↔ gapsOf e ≠ [] := by
    simp [Gapped, List.eq_nil_iff_forall_not_mem]
  rw [Present, hgapped]
  constructor
  · rintro (⟨v, w, hv, hw, hnull⟩ | hgaps)
    · obtain rfl : v = w := by simpa [valueAt] using hw
      refine ⟨by simp [hv], ?_⟩
      rw [hv]
      rintro ⟨⟩
      cases hnull
    · exact ⟨fun h => hgaps (gapsOf_eq_nil (.inl h)), fun h => hgaps (gapsOf_eq_nil (.inr h))⟩
  · rintro ⟨hundefined, hnull⟩
    rcases gapsOf_cases "" e with ⟨kind, -, hgaps⟩ | ⟨hkind, -⟩
    · exact .inr (by simp [hgaps])
    · left
      change (reduction e).kind? = none at hkind
      cases hr : reduction e with
      | undefined => exact absurd hr hundefined
      | nonLiteral kind => simp [hr, Reduction.kind?] at hkind
      | value v =>
        refine ⟨v, v, hr, rfl, ?_⟩
        cases v with
        | null => exact absurd hr hnull
        | _ => rfl

/-- Only into an object literal a path goes on. -/
lemma exists_object_of_present (h : Present e (k :: keys)) :
    ∃ members, e.unwrap = .object members := by
  rcases h with ⟨v, w, hv, hw, -⟩ | ⟨g, hg, rest, hsteps⟩
  · cases v with
    | object fields => exact exists_object_of_reduction hv
    | _ => simp [valueAt, Value.get?, Value.fields?] at hw
  · exact exists_object_of_gap hg hsteps.symm

/-- What is written for a key are the values that are given to it. -/
lemma mem_written {u : Value} :
    u ∈ written k members
      ↔ ∃ key v, .pair key v ∈ members ∧ keyText? key = some k ∧ reduction v = .value u := by
  simp only [written, definitions, List.mem_filterMap, List.mem_filter, decide_eq_true_eq]
  constructor
  · rintro ⟨m, ⟨hm, hk⟩, hu⟩
    cases m with
    | pair key v =>
      refine ⟨key, v, hm, hk, ?_⟩
      rw [Member.value?] at hu
      cases hr : reduction v <;> simp_all [Reduction.value?]
    | _ => cases hu
  · rintro ⟨key, v, hv, hk, hu⟩
    exact ⟨.pair key v, ⟨hv, hk⟩, by rw [Member.value?, hu]; rfl⟩

/-- A key holds what its one value comes to. -/
lemma PlainObject.getLast?_written (h : PlainObject members) {u : Value} :
    (written k members).getLast? = some u
      ↔ ∃ key v, .pair key v ∈ members ∧ keyText? key = some k ∧ reduction v = .value u := by
  constructor
  · intro hlast
    exact mem_written.mp (List.mem_of_getLast? hlast)
  · rintro ⟨key, v, hv, hk, hu⟩
    have hne : written k members ≠ [] := List.ne_nil_of_mem (mem_written.mpr ⟨key, v, hv, hk, hu⟩)
    rw [List.getLast?_eq_some_getLast hne]
    -- whatever is written last is a value of the same key, and there is only one
    obtain ⟨key', v', hv', hk', hu'⟩ := mem_written.mp (List.getLast_mem hne)
    obtain rfl := h.unrepeated key v key' v' hv hv' (hk.trans hk'.symm)
    simpa [hu] using hu'.symm

/-- Values one key further down. -/
lemma PlainObject.valued_cons_iff (h : PlainObject members) (he : e.unwrap = .object members) :
    Valued e (k :: keys) ↔
      ∃ key v, .pair key v ∈ members ∧ keyText? key = some k ∧ Valued v keys := by
  have hget : ∀ u, (Value.object (reduceMembers "" [] members).1).get? k = some u
      ↔ ∃ key v, .pair key v ∈ members ∧ keyText? key = some k ∧ reduction v = .value u := by
    intro u
    have hfields := get?_reduceMembers "" [] members k
    have hempty : Fields.get? [] k = none := rfl
    rw [hempty, Option.or_none] at hfields
    rw [← h.getLast?_written, ← hfields]
    rfl
  constructor
  · rintro ⟨v, w, hv, hw, hnull⟩
    rw [reduction_of_object he] at hv
    cases hv
    obtain ⟨u, hu, hw⟩ := Option.bind_eq_some_iff.mp hw
    obtain ⟨key, v, hv, hk, hvu⟩ := (hget u).mp hu
    exact ⟨key, v, hv, hk, u, w, hvu, hw, hnull⟩
  · rintro ⟨key, v, hv, hk, u, w, hu, hw, hnull⟩
    refine ⟨_, w, reduction_of_object he, ?_, hnull⟩
    exact Option.bind_eq_some_iff.mpr ⟨u, (hget u).mpr ⟨key, v, hv, hk, hu⟩, hw⟩

/-- The gaps of a member that a path of keys leads to. -/
lemma NamedPlainly.gapped_iff {m : Member} (hm : NamedPlainly m) (hk : IsIdentifier k) (i : Nat) :
    (∃ g ∈ memberGaps i m, (k :: keys).map Step.key <+: g.steps)
      ↔ m.key? = some k ∧ ∃ g ∈ gapsBelow m, keys.map Step.key <+: g.steps := by
  rcases hm with ⟨v, rfl⟩ | ⟨name, hname, -⟩
  · simp [memberGaps, Member.key?, Gap.under, Gap.here, List.cons_prefix_cons, hk.ne_dots]
  · simp only [memberGaps_of_key hname, List.mem_map, exists_exists_and_eq_and, Gap.under,
      List.map_cons, List.cons_prefix_cons, Step.key.injEq, hname, Option.some.injEq]
    constructor
    · rintro ⟨g, hg, rfl, hprefix⟩
      exact ⟨rfl, g, hg, hprefix⟩
    · rintro ⟨rfl, g, hg, hprefix⟩
      exact ⟨g, hg, rfl, hprefix⟩

/-- Gaps one key further down. -/
lemma PlainObject.gapped_cons_iff (h : PlainObject members) (he : e.unwrap = .object members)
    (hk : IsIdentifier k) :
    Gapped e (k :: keys) ↔ ∃ m ∈ members, m.key? = some k ∧
      ∃ g ∈ gapsBelow m, keys.map Step.key <+: g.steps := by
  simp only [Gapped, gapsOf_of_object he, mem_partsGaps]
  constructor
  · rintro ⟨g, ⟨i, m, hm, hg⟩, hprefix⟩
    have hmem := List.mem_of_getElem? hm
    exact ⟨m, hmem, ((h.names m hmem).gapped_iff hk i).mp ⟨g, hg, hprefix⟩⟩
  · rintro ⟨m, hm, hbelow⟩
    obtain ⟨i, hi⟩ := List.getElem?_of_mem hm
    obtain ⟨g, hg, hprefix⟩ := ((h.names m hm).gapped_iff hk i).mpr hbelow
    exact ⟨g, ⟨i, m, hi, hg⟩, hprefix⟩

/-- Whether a path of keys leads on from a member: into its value, or no further if that is not
told. -/
def PresentBelow (keys : List String) : Member → Prop
  | .pair _ v => Present v keys
  | _ => keys = []

/-- **One key of a path**: it is a key of the object literal, and the path leads on from there. -/
lemma PlainObject.present_cons_iff (h : PlainObject members) (he : e.unwrap = .object members)
    (hk : IsIdentifier k) :
    Present e (k :: keys) ↔ ∃ m ∈ members, m.key? = some k ∧ PresentBelow keys m := by
  have hgap : ∀ kind : Kind,
      (∃ g ∈ [Gap.here kind], keys.map Step.key <+: g.steps) ↔ keys = [] := by
    intro kind
    simp [Gap.here]
  rw [Present, h.valued_cons_iff he, h.gapped_cons_iff he hk]
  constructor
  · rintro (⟨key, v, hv, hkey, hvalued⟩ | ⟨m, hm, hkey, hgapped⟩)
    · exact ⟨.pair key v, hv, hkey, .inl hvalued⟩
    · refine ⟨m, hm, hkey, ?_⟩
      cases m with
      | pair key v => exact .inr hgapped
      | _ => exact (hgap _).mp hgapped
  · rintro ⟨m, hm, hkey, hpresent⟩
    cases m with
    | pair key v =>
      rcases hpresent with hvalued | hgapped
      · exact .inl ⟨key, v, hm, hkey, hvalued⟩
      · exact .inr ⟨.pair key v, hm, hkey, hgapped⟩
    | _ => exact .inr ⟨_, hm, hkey, (hgap _).mpr hpresent⟩

/-- **Down the object literals**: what is present is what the source sets. -/
theorem present_iff_sets (hne : keys ≠ []) (hkeys : ∀ k ∈ keys, IsIdentifier k)
    (he : e.unwrap = .object members) (hplain : ∀ inner, ObjectIn e inner → PlainObject inner) :
    Present e keys ↔ Sets members keys := by
  induction keys generalizing e members with
  | nil => exact absurd rfl hne
  | cons k keys ih =>
    have hk : IsIdentifier k := hkeys k List.mem_cons_self
    have hrest : ∀ j ∈ keys, IsIdentifier j := fun j hj => hkeys j (List.mem_cons_of_mem k hj)
    rw [(hplain members (.here he)).present_cons_iff he hk]
    cases keys with
    | nil =>
      have hown : ∀ m : Member, m.key? = some k → (PresentBelow [] m ↔ SetsKey m) := by
        intro m hkey
        cases m with
        | pair key v => exact present_nil_iff v
        | spread v => cases hkey
        | _ => simp [PresentBelow, SetsKey]
      constructor
      · rintro ⟨m, hm, hkey, hpresent⟩
        exact .own hm hkey ((hown m hkey).mp hpresent)
      · intro hsets
        cases hsets with
        | own hm hkey h => exact ⟨_, hm, hkey, (hown _ hkey).mpr h⟩
        | inside hm hkey hv h => cases h
    | cons j keys =>
      have hinner : ∀ {key v inner}, .pair key v ∈ members → v.unwrap = .object inner →
          (Present v (j :: keys) ↔ Sets inner (j :: keys)) := by
        intro key v inner hv hobject
        exact ih (List.cons_ne_nil j keys) hrest hobject
          fun inner hin => hplain inner (.inside he hv hin)
      constructor
      · rintro ⟨m, hm, hkey, hpresent⟩
        cases m with
        | pair key v =>
          obtain ⟨inner, hobject⟩ := exists_object_of_present hpresent
          exact .inside hm hkey hobject ((hinner hm hobject).mp hpresent)
        | _ => cases hpresent
      · intro hsets
        cases hsets with
        | inside hm hkey hobject h => exact ⟨_, hm, hkey, (hinner hm hobject).mpr h⟩

/-! ### The text of omissions -/

/-- The way to a gap can be told apart by its text. -/
lemma legible_of_mem_gapsOf (hplain : ∀ inner, ObjectIn e inner → PlainObject inner) {g : Gap}
    (hg : g ∈ gapsOf e) : Legible g.steps := by
  induction e using literalInduction generalizing g with
  | leaf e he =>
    rw [gapsOf_leaf he] at hg
    obtain ⟨kind, -, rfl⟩ := List.mem_map.mp hg
    exact .nil
  | wrapped w e ih =>
    exact ih (fun inner hin => hplain inner (objectIn_wrapped.mpr hin)) hg
  | object members ih =>
    have hobject : (Expr.object members).unwrap = .object members := rfl
    rw [gapsOf_of_object hobject, mem_partsGaps] at hg
    obtain ⟨i, m, hm, hg⟩ := hg
    have hmem : m ∈ members := List.mem_of_getElem? hm
    rcases (hplain members (.here hobject)).names m hmem with ⟨v, rfl⟩ | ⟨k, hkey, hk⟩
    · rw [List.mem_singleton.mp hg]
      exact .spread
    · rw [memberGaps_of_key hkey] at hg
      obtain ⟨below, hbelow, rfl⟩ := List.mem_map.mp hg
      refine .key hk ?_
      cases m with
      | pair key v =>
        exact ih key v hmem (fun inner h => hplain inner (.inside hobject hmem h)) hbelow
      | _ =>
        rw [List.mem_singleton.mp hbelow]
        exact .nil
  | array slots ih =>
    rw [mem_gapsOf] at hg
    cases hg with
    | here h => cases h
    | array hs h => cases h <;> exact .index

/-- A path of keys is set just if it is present: the text of omissions misleads nobody. -/
lemma isSet_iff_present (hne : keys ≠ []) (hkeys : ∀ k ∈ keys, IsIdentifier k)
    (he : e.unwrap = .object members) (hplain : ∀ inner, ObjectIn e inner → PlainObject inner) :
    isSet (reduce e) keys = true ↔ Present e keys := by
  have hreduction := reduction_of_object he
  have hvalue : (reduce e).value = .object (reduceMembers "" [] members).1 := by
    rw [reduction] at hreduction
    rw [reduce]
    split <;> simp_all
  have hvalued : (valueAt (reduce e).value keys).any (fun v => !v.isNull) = true
      ↔ Valued e keys := by
    rw [Option.any_eq_true, Valued, hreduction, hvalue]
    simp
  have hgapped : ((reduce e).omitted.any fun o =>
      leadsThrough o.path.toList (".".intercalate keys).toList) = true ↔ Gapped e keys := by
    rw [omitted_reduce, List.any_map, List.any_eq_true]
    refine exists_congr fun g => and_congr_right fun hg => ?_
    obtain ⟨k, steps, hsteps⟩ := exists_key_of_mem_gapsOf he hg
    exact leadsThrough_omission (legible_of_mem_gapsOf hplain hg) hsteps hne hkeys
  rw [isSet, Bool.or_eq_true, hvalued, hgapped, Present]

/-! ### Advice -/

/-- What the source of a build config gives reason to advise. -/
def Advised (members : List Member) (target : Nat) : Advisory → Prop
  | .weappRenamed => Sets members ["weapp"]
  | .weappModuleFlattened => Sets members ["weapp", "module"]
  | .h5ModuleFlattened => Sets members ["h5", "module"]
  | .frameworkMissing => target = 3 ∧ ¬ Sets members ["framework"]
  | .babelDeprecated => target = 3 ∧ Sets members ["babel"]

/-- What is advised, by the paths of keys that are set. -/
lemma mem_advisories (r : Reduced) (target : Nat) (a : Advisory) :
    a ∈ advisories r target ↔ match a with
      | .weappRenamed => isSet r ["weapp"] = true
      | .weappModuleFlattened => isSet r ["weapp"] = true ∧ isSet r ["weapp", "module"] = true
      | .h5ModuleFlattened => isSet r ["h5", "module"] = true
      | .frameworkMissing => target = 3 ∧ ¬ isSet r ["framework"] = true
      | .babelDeprecated => target = 3 ∧ isSet r ["babel"] = true := by
  by_cases htarget : target = 3 <;> cases a <;> simp [advisories, fileVersion, htarget]

/-- What leads on into an object literal is set. -/
lemma Sets.first (h : Sets members (k :: keys)) : Sets members [k] := by
  cases h with
  | own hm hk h => exact .own hm hk h
  | inside hm hk hv h =>
    refine .own hm hk ⟨by simp [hv], ?_⟩
    simp [reduction_of_object hv]

/-- **What a build config sets.**  Let the names in an object literal be plain identifiers and none
of them have two values, at whatever depth.  A path of identifiers is set in what the object literal
comes to just if it leads down nested object literals to a member that sets the last key, and what
is advised follows from what the source sets. -/
theorem isSet_iff_sets (he : e.unwrap = .object members)
    (hplain : ∀ inner, ObjectIn e inner → PlainObject inner) :
    (∀ keys : List String, keys ≠ [] → (∀ k ∈ keys, IsIdentifier k) →
      (isSet (reduce e) keys = true ↔ Sets members keys)) ∧
    ∀ (target : Nat) (a : Advisory),
      a ∈ advisories (reduce e) target ↔ Advised members target a := by
  have hset : ∀ keys : List String, keys ≠ [] → (∀ k ∈ keys, IsIdentifier k) →
      (isSet (reduce e) keys = true ↔ Sets members keys) := by
    intro keys hne hkeys
    rw [isSet_iff_present hne hkeys he hplain, present_iff_sets hne hkeys he hplain]
  refine ⟨hset, fun target a => ?_⟩
  rw [mem_advisories]
  cases a with
  | weappRenamed => exact hset ["weapp"] (by decide) (by decide)
  | weappModuleFlattened =>
    have hweapp := hset ["weapp"] (by decide) (by decide)
    have hmodule := hset ["weapp", "module"] (by decide) (by decide)
    simp only [hweapp, hmodule, Advised]
    exact and_iff_right_of_imp Sets.first
  | h5ModuleFlattened => exact hset ["h5", "module"] (by decide) (by decide)
  | frameworkMissing =>
    exact and_congr_right' (not_congr (hset ["framework"] (by decide) (by decide)))
  | babelDeprecated => exact and_congr_right' (hset ["babel"] (by decide) (by decide))

/-- What `weapp` is set to in `sampleConfig`: a spread, and the value of a call. -/
def sampleWeapp : List Member :=
  [.spread (.ident "shared"), .pair (.name "module") (.compound .call [.ident "load"])]

/-- A build config with a wrapper, a spread, a call, and a longer key that starts like another. -/
def sampleConfig : List Member :=
  [.pair (.name "weapp2") (.object [.shorthand "module"]),
    .pair (.name "weapp") (.wrapped .parens (.object sampleWeapp)),
    .pair (.name "framework") (.ident "undefined")]

/-- The omission at `weapp.module` is on the way of `weapp`, and nothing sets `framework`. -/
theorem isSet_iff_sets_sample :
    (∀ inner, ObjectIn (.object sampleConfig) inner → PlainObject inner) ∧
      Sets sampleConfig ["weapp", "module"] ∧ ¬ Sets sampleConfig ["framework"] ∧
      Advisory.weappModuleFlattened ∈ advisories (reduce (.object sampleConfig)) 3 ∧
      Advisory.frameworkMissing ∈ advisories (reduce (.object sampleConfig)) 3 := by
  have hplain : ∀ inner, ObjectIn (.object sampleConfig) inner → PlainObject inner := by
    intro inner hin
    obtain rfl | rfl | rfl : inner = sampleConfig ∨ inner = [.shorthand "module"] ∨
        inner = sampleWeapp := by
      have hname := not_objectIn_leaf (e := .ident "undefined") rfl inner
      have hcall := not_objectIn_leaf (e := .compound .call [.ident "load"]) rfl inner
      simpa [objectIn_object, objectIn_wrapped, hname, hcall, sampleConfig, sampleWeapp,
        or_and_right, exists_or] using hin
    all_goals
      refine .of_nodup ?_ (by decide)
      simp only [sampleConfig, sampleWeapp, NamedPlainly, Member.key?, keyText?]
      simp
      decide
  obtain ⟨hset, hadvised⟩ := @isSet_iff_sets (.object sampleConfig) sampleConfig rfl hplain
  have hmodule : Sets sampleConfig ["weapp", "module"] :=
    (hset _ (by decide) (by decide)).mp (by decide)
  have hframework : ¬ Sets sampleConfig ["framework"] := by
    rw [← hset _ (by decide) (by decide)]
    decide
  exact ⟨hplain, hmodule, hframework, (hadvised 3 _).mpr hmodule,
    (hadvised 3 _).mpr ⟨rfl, hframework⟩⟩

end PageConfig.Project
