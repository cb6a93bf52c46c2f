import PageConfig.Proofs.FirstMet
import PageConfig.Proofs.Resolve.Merge

/-!
# Components in use, entry by entry

References are entered one after another, and a name may be entered many times.
Its place is fixed by the first time: a name that is new goes to the end, and
one that is there stays where it is, so that the names are collected as things
that are met (`Using.keys_insertAll`).  Its value is fixed by the last time,
since nothing replaces that.
-/

namespace PageConfig.Resolve.Using

open PageConfig.Json (Value Fields)

/-- A name that is entered goes to the end, unless it is there already. -/
lemma keys_insert (u : Using) (name reference : String) :
    (u.insert name reference).entries.keys = addNew u.entries.keys name := by
  by_cases hname : name ∈ u.entries.keys
  · rw [addNew_of_mem hname]
    exact Fields.keys_insert_of_mem hname _
  · rw [addNew_of_not_mem hname, insert, Fields.insert_of_not_mem hname, Fields.keys_append]
    rfl

/-- The names are collected in the order in which they are entered. -/
lemma keys_insertAll (u : Using) (es : List (String × String)) :
    (u.insertAll es).entries.keys = (es.map Prod.fst).foldl addNew u.entries.keys := by
  induction es generalizing u with
  | nil => rfl
  | cons e es ih => rw [insertAll_cons, ih, keys_insert, List.map_cons, List.foldl_cons]

/-- A name has the reference that it is last entered with. -/
lemma get?_insertAll_of_last {name : String} {later : List (String × String)}
    (h : name ∉ later.map Prod.fst) (u : Using) (earlier : List (String × String))
    (reference : String) :
    Fields.get? (u.insertAll (earlier ++ (name, reference) :: later)).entries name
      = some (.string reference) := by
  have hlater : ∀ r, (name, r) ∉ later := fun r hr => h (List.mem_map_of_mem hr)
  rw [insertAll_append, insertAll_cons, get?_insertAll_of_not_mem hlater, insert,
    Fields.get?_insert, if_pos rfl]

/-- Nothing is in use only if nothing was, and nothing is entered. -/
lemma isEmpty_insertAll (u : Using) (es : List (String × String)) :
    (u.insertAll es).isEmpty = true ↔ u.entries = [] ∧ es = [] := by
  rw [isEmpty, List.isEmpty_iff]
  constructor
  · intro hnil
    have hnone : ∀ name, name ∉ (u.insertAll es).entries.keys := by simp [hnil]
    have hbefore : u.entries.keys = [] := by
      rw [List.eq_nil_iff_forall_not_mem]
      exact fun name hname => hnone name ((mem_keys_insertAll u).mpr (Or.inl hname))
    refine ⟨List.map_eq_nil_iff.mp hbefore, ?_⟩
    rw [List.eq_nil_iff_forall_not_mem]
    exact fun e he => hnone e.1 ((mem_keys_insertAll u).mpr (Or.inr ⟨e.2, he⟩))
  · rintro ⟨hentries, rfl⟩
    exact hentries

/-- **The first entry of a name places it, and the last one decides.**  Whatever a page declares,
and whatever references are entered after that, one after another,

* the names are those declared, in their order, and then the new ones in the order in which they are
  first entered; none of these comes twice, and so none does at all if none was declared twice;
* a name that is entered has the reference that it is last entered with;
* every other name has the value it was declared with, of whatever kind;
* and nothing is in use just if nothing was declared and nothing is entered. -/
theorem insertAll_exact (declared : Option Fields) (es : List (String × String)) :
    ∃ (fields : Fields) (new : List String),
      ((ofDeclared declared).insertAll es).value = .object fields ∧
      fields.keys = (declared.getD []).keys ++ new ∧
      FirstMet (declared.getD []).keys (es.map Prod.fst) new ∧
      ((declared.getD []).keys.Nodup → fields.keys.Nodup) ∧
      (∀ earlier name reference later, es = earlier ++ (name, reference) :: later →
        name ∉ later.map Prod.fst → Fields.get? fields name = some (.string reference)) ∧
      (∀ name, name ∉ es.map Prod.fst →
        Fields.get? fields name = Fields.get? (declared.getD []) name) ∧
      (((ofDeclared declared).insertAll es).isEmpty = true ↔ declared.getD [] = [] ∧ es = []) := by
  obtain ⟨new, hkeys, hnew⟩ := exists_firstMet_foldl (declared.getD []).keys (es.map Prod.fst)
  have hentries : ((ofDeclared declared).insertAll es).entries.keys
      = (declared.getD []).keys ++ new := by
    rw [keys_insertAll, ← hkeys]
    rfl
  refine ⟨_, new, rfl, hentries, hnew, ?_, ?_, ?_, isEmpty_insertAll _ es⟩
  · intro hdeclared
    rw [hentries, List.nodup_append]
    refine ⟨hdeclared, hnew.nodup, fun a ha b hb hab => ?_⟩
    exact ((hnew.mem_iff b).mp hb).2 (hab ▸ ha)
  · rintro earlier name reference later rfl hlater
    exact get?_insertAll_of_last hlater _ earlier reference
  · intro name hname
    exact get?_insertAll_of_not_mem (fun r hr => hname (List.mem_map_of_mem hr)) _

/-- A name that is entered again keeps its place, and one that is declared with no reference keeps
what it has until one is entered for it. -/
example :
    ((ofDeclared (some [("a", .int 1), ("b", .null)])).insertAll
        [("c", "./x"), ("b", "./y"), ("c", "./z")]).entries.map (fun e => (e.1, e.2.string?))
      = [("a", none), ("b", some "./y"), ("c", some "./z")] := by decide

end PageConfig.Resolve.Using
