import Mathlib.Data.List.Basic
import Mathlib.Tactic.Lemma
import PageConfig.Json.Value

/-!
# Ordered fields

Writing a key changes the value of that key and of no other.  The keys stay
where they are, and only a key that was not there is added, as the last one.
-/

namespace PageConfig.Json.Fields

@[simp] lemma keys_nil : keys [] = [] := rfl

@[simp] lemma keys_cons (e : String × Value) (fields : Fields) :
    keys (e :: fields) = e.1 :: keys fields := rfl

@[simp] lemma keys_append (fields more : Fields) :
    keys (fields ++ more) = keys fields ++ keys more := List.map_append

/-- The value of a key is that of the first field with it. -/
lemma get?_cons (k : String) (v : Value) (fields : Fields) (key : String) :
    get? ((k, v) :: fields) key = if key = k then some v else get? fields key := by
  rw [get?, List.lookup_cons, get?]
  by_cases h : key = k
  · rw [if_pos h, beq_iff_eq.mpr h]
  · rw [if_neg h, beq_eq_false_iff_ne.mpr h]

/-- The keys are those that have a value. -/
lemma mem_keys_iff {fields : Fields} {key : String} :
    key ∈ keys fields ↔ ∃ v, get? fields key = some v := by
  induction fields with
  | nil => simp [get?]
  | cons e fields ih =>
    obtain ⟨k, v⟩ := e
    rw [keys_cons, List.mem_cons, get?_cons]
    by_cases h : key = k
    · simp [h]
    · simp [h, ih]

/-- A key that is there stays where it is. -/
lemma keys_insert_of_mem {fields : Fields} {key : String} (h : key ∈ keys fields) (v : Value) :
    keys (insert fields key v) = keys fields := by
  induction fields with
  | nil => simp at h
  | cons e fields ih =>
    obtain ⟨k, w⟩ := e
    by_cases hk : k = key
    · simp [insert, hk]
    · have hrest : key ∈ keys fields := by
        rcases List.mem_cons.mp h with h | h
        · exact absurd h.symm hk
        · exact h
      simp [insert, hk, ih hrest]

/-- A key that is not there becomes the last one. -/
lemma insert_of_not_mem {fields : Fields} {key : String} (h : key ∉ keys fields) (v : Value) :
    insert fields key v = fields ++ [(key, v)] := by
  induction fields with
  | nil => rfl
  | cons e fields ih =>
    obtain ⟨k, w⟩ := e
    rw [keys_cons, List.mem_cons, not_or] at h
    have hk : k ≠ key := fun hk => h.1 hk.symm
    simp [insert, hk, ih h.2]

/-- The keys before are the first ones after. -/
lemma keys_prefix_keys_insert (fields : Fields) (key : String) (v : Value) :
    keys fields <+: keys (insert fields key v) := by
  by_cases h : key ∈ keys fields
  · have hsame := keys_insert_of_mem h v
    exact ⟨[], by rw [List.append_nil, hsame]⟩
  · rw [insert_of_not_mem h, keys_append]
    exact List.prefix_append _ _

/-- A key that is written has the value written, and every other key the one it had. -/
lemma get?_insert (fields : Fields) (key : String) (v : Value) (other : String) :
    get? (insert fields key v) other = if other = key then some v else get? fields other := by
  induction fields with
  | nil => rw [insert, get?_cons]
  | cons e fields ih =>
    obtain ⟨k, w⟩ := e
    rw [insert]
    by_cases hk : k = key
    · subst hk
      rw [if_pos rfl, get?_cons, get?_cons]
      by_cases hother : other = k <;> simp [hother]
    · rw [if_neg hk, get?_cons, get?_cons, ih]
      by_cases hother : other = k
      · subst hother
        simp [hk]
      · simp [hother]

/-- The fields of other keys stay as they are. -/
lemma filter_insert (fields : Fields) (key : String) (v : Value) :
    (insert fields key v).filter (fun e => e.1 ≠ key) = fields.filter fun e => e.1 ≠ key := by
  induction fields with
  | nil => simp [insert]
  | cons e fields ih =>
    obtain ⟨k, w⟩ := e
    rw [insert]
    by_cases hk : k = key
    · simp [hk]
    · simpa [hk] using ih

/-- Writing the value that a key has changes nothing. -/
lemma insert_get? {fields : Fields} {key : String} {v : Value} (h : get? fields key = some v) :
    insert fields key v = fields := by
  induction fields with
  | nil => simp [get?] at h
  | cons e fields ih =>
    obtain ⟨k, w⟩ := e
    rw [get?_cons] at h
    rw [insert]
    by_cases hk : k = key
    · rw [if_pos hk.symm] at h
      rw [if_pos hk, Option.some.inj h]
    · rw [if_neg fun hkey => hk hkey.symm] at h
      rw [if_neg hk, ih h]

end PageConfig.Json.Fields
