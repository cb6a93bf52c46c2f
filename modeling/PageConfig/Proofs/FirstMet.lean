import Mathlib.Data.List.Induction
import Mathlib.Data.List.Nodup

/-!
# What is met first

Tags and pages are collected in one way: each is put at the end of a list,
unless it is there already.  `addNew` is one step of this.  What a whole list
adds to what was there before is described by `FirstMet`, without regard to how
it was collected: everything that is new, each once, in the order in which it
is first met.
-/

namespace PageConfig

variable {α : Type}

/-- In a list, one thing is met before another one, which may not be met at all. -/
def MetBefore (l : List α) (a b : α) : Prop :=
  ∃ before after, l = before ++ a :: after ∧ b ∉ before ∧ b ≠ a

/-- The things that a list adds to those that were there before. -/
structure FirstMet (seen l new : List α) : Prop where
  nodup : new.Nodup
  mem_iff : ∀ a, a ∈ new ↔ a ∈ l ∧ a ∉ seen
  ordered : new.Pairwise (MetBefore l)

variable {l : List α} {a b : α}

/-- What comes later does not matter for what is met before. -/
lemma MetBefore.append (h : MetBefore l a b) (l' : List α) : MetBefore (l ++ l') a b := by
  obtain ⟨before, after, rfl, hb, hne⟩ := h
  exact ⟨before, after ++ l', by simp, hb, hne⟩

/-- What is met is met before what has not been met. -/
lemma metBefore_of_mem (ha : a ∈ l) (hb : b ∉ l) : MetBefore l a b := by
  obtain ⟨before, after, rfl⟩ := List.append_of_mem ha
  refine ⟨before, after, rfl, fun hmem => hb (List.mem_append_left _ hmem), ?_⟩
  rintro rfl
  exact hb (by simp)

namespace FirstMet

variable {seen new : List α}

/-- Nothing more is met in what is there already. -/
lemma concat_of_mem (h : FirstMet seen l new) (ha : a ∈ seen ++ new) :
    FirstMet seen (l ++ [a]) new := by
  refine ⟨h.nodup, fun b => ?_, h.ordered.imp fun hmet => hmet.append [a]⟩
  rw [h.mem_iff, List.mem_append, List.mem_singleton]
  constructor
  · rintro ⟨hb, hseen⟩
    exact ⟨Or.inl hb, hseen⟩
  · rintro ⟨hb | rfl, hseen⟩
    · exact ⟨hb, hseen⟩
    · have hnew : b ∈ new := (List.mem_append.mp ha).resolve_left hseen
      exact ⟨((h.mem_iff b).mp hnew).1, hseen⟩

/-- What is not there yet is met last. -/
lemma concat_of_not_mem (h : FirstMet seen l new) (ha : a ∉ seen ++ new) :
    FirstMet seen (l ++ [a]) (new ++ [a]) := by
  obtain ⟨hseen, hnew⟩ : a ∉ seen ∧ a ∉ new := by simpa using ha
  have hl : a ∉ l := fun hmem => hnew ((h.mem_iff a).mpr ⟨hmem, hseen⟩)
  refine ⟨?_, fun b => ?_, ?_⟩
  · rw [← List.concat_eq_append]
    exact h.nodup.concat hnew
  · rw [List.mem_append, h.mem_iff, List.mem_append, List.mem_singleton]
    constructor
    · rintro (⟨hb, hb'⟩ | rfl)
      · exact ⟨Or.inl hb, hb'⟩
      · exact ⟨Or.inr rfl, hseen⟩
    · rintro ⟨hb | rfl, hb'⟩
      · exact Or.inl ⟨hb, hb'⟩
      · exact Or.inr rfl
  · rw [List.pairwise_append]
    refine ⟨h.ordered.imp fun hmet => hmet.append [a], List.pairwise_singleton _ a, ?_⟩
    intro b hb c hc
    obtain rfl := List.mem_singleton.mp hc
    exact (metBefore_of_mem ((h.mem_iff b).mp hb).1 hl).append [c]

end FirstMet

section

variable [BEq α] [LawfulBEq α]

/-- Something at the end of a list, unless it is there already. -/
def addNew (seen : List α) (a : α) : List α := if seen.contains a then seen else seen ++ [a]

lemma addNew_of_mem {seen : List α} (h : a ∈ seen) : addNew seen a = seen := by
  rw [addNew, if_pos (List.contains_iff_mem.mpr h)]

lemma addNew_of_not_mem {seen : List α} (h : a ∉ seen) : addNew seen a = seen ++ [a] := by
  rw [addNew, if_neg (by simpa using h)]

/-- **Collecting a list adds what is first met in it.** -/
theorem exists_firstMet_foldl (seen l : List α) :
    ∃ new, l.foldl addNew seen = seen ++ new ∧ FirstMet seen l new := by
  induction l using List.reverseRecOn with
  | nil => exact ⟨[], by simp, by simp, by simp, .nil⟩
  | append_singleton l a ih =>
    obtain ⟨new, hfold, hnew⟩ := ih
    rw [List.foldl_append, hfold, List.foldl_cons, List.foldl_nil]
    by_cases ha : a ∈ seen ++ new
    · exact ⟨new, addNew_of_mem ha, hnew.concat_of_mem ha⟩
    · refine ⟨new ++ [a], ?_, hnew.concat_of_not_mem ha⟩
      rw [addNew_of_not_mem ha, List.append_assoc]

end

end PageConfig
