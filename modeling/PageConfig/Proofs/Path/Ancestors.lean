import Mathlib.Data.List.Induction
import PageConfig.Proofs.Path.Places

/-!
# The directories above a path

`Ancestry p dirs` says that `dirs` are `p` and the directories above it, nearest
first, up to one that has no parent.  Climbing gives just these
(`ancestry_ancestors`): a parent is spelled by less text than the path itself
(`length_lt_of_parent?`), so the steps that the text of a path allows for are
enough.
-/

namespace PageConfig.Path

/-- A path and all directories above it, nearest first. -/
inductive Ancestry : Path → List Path → Prop where
  | top {p : Path} (h : p.parent? = none) : Ancestry p [p]
  | up {p q : Path} {dirs : List Path} (h : p.parent? = some q) (hq : Ancestry q dirs) :
    Ancestry p (p :: dirs)

/-! ### Parents are shorter -/

/-- More segments are more text. -/
lemma length_glue_le {ws vs : List (List Char)} (h : ws <+: vs) :
    (glue ws).length ≤ (glue vs).length := by
  obtain ⟨rest, rfl⟩ := h
  induction rest using List.reverseRecOn with
  | nil => simp
  | append_singleton rest w ih =>
    refine Nat.le_trans ih ?_
    by_cases hnil : ws ++ rest = []
    · rw [hnil]
      exact Nat.zero_le _
    · rw [← List.append_assoc, glue_concat hnil, List.length_append]
      exact Nat.le_add_right _ _

/-- The length of a path is that of its spelling. -/
lemma length_text (p : Path) :
    p.text.length = p.layout.absolute.toNat + (glue p.layout.segments).length := by
  rw [← String.length_toList, layout]
  split
  · rename_i h
    rw [h]
    rfl
  · rename_i c cs h
    rw [h]
    split
    · rw [glue_cut, List.length_cons, Bool.toNat_true, Nat.add_comm]
    · rw [glue_cut, Bool.toNat_false, Nat.zero_add]

lemma Layout.length_toPath (l : Layout) :
    l.toPath.text.length = l.absolute.toNat + (glue l.segments).length := by
  rw [toPath, String.length_ofList]
  split
  · rename_i h
    rw [h, List.length_cons, Bool.toNat_true, Nat.add_comm]
  · rename_i h
    rw [Bool.eq_false_iff.mpr h, Bool.toNat_false, Nat.zero_add]

/-- The directory that holds a path is spelled by less text. -/
theorem length_lt_of_parent? {p q : Path} (h : p.parent? = some q) :
    q.text.length < p.text.length := by
  set l := p.layout.trimEnd with hl
  set rest : Layout := { l with segments := l.segments.dropLast } with hrest
  have habsolute : rest.trimEnd.absolute = p.layout.absolute := by
    rw [Layout.trimEnd_absolute, hrest, hl, Layout.trimEnd_absolute]
  have hkept : rest.trimEnd.segments <+: l.segments.dropLast := Layout.trimEnd_segments_prefix rest
  obtain ⟨c, hlast, hroot, rfl⟩ :
      ∃ c, l.components.getLast? = some c ∧ c ≠ .root ∧ q = rest.trimEnd.toPath := by
    rw [parent?, ← hl] at h
    split at h
    · cases h
    · cases h
    · rename_i c hc hlast
      exact ⟨c, hlast, hc, (Option.some.inj h).symm⟩
  rw [Layout.length_toPath, length_text, habsolute, Nat.add_lt_add_iff_left]
  rcases Layout.trimEnd_cases p.layout with ⟨hnone, hdrop⟩ | ⟨init, w, hsegments, hw⟩
  · -- only the dot of a relative path is left, and the empty path above it
    rw [← hl] at hnone hdrop
    have hrelative : p.layout.absolute = false := by
      rw [Bool.eq_false_iff]
      intro htrue
      have hl' : l.absolute = true := by rw [hl, Layout.trimEnd_absolute, htrue]
      have hcomponents : l.components = [.root] := by
        simp [Layout.components, Layout.opening, hl', hnone]
      rw [hcomponents] at hlast
      exact hroot (Option.some.inj hlast).symm
    have hnil : rest.trimEnd.segments = [] := by
      rw [hdrop] at hkept
      exact List.prefix_nil.mp hkept
    rw [hnil]
    refine Nat.pos_of_ne_zero fun hzero => ?_
    have hempty : p.text.length = 0 := by
      rw [length_text, hrelative, hzero]
      rfl
    obtain rfl : p = ⟨""⟩ := by
      rw [Path.mk.injEq, ← String.toList_eq_nil_iff, ← List.length_eq_zero_iff,
        String.length_toList, hempty]
    cases hlast
  · rw [← hl] at hsegments
    have hne : 0 < w.length := by
      refine List.length_pos_iff.mpr ?_
      rintro rfl
      cases hw
    have hinit : (glue rest.trimEnd.segments).length ≤ (glue init).length := by
      rw [hsegments, List.dropLast_concat] at hkept
      exact length_glue_le hkept
    have hwhole : (glue (init ++ [w])).length ≤ (glue p.layout.segments).length := by
      rw [← hsegments]
      exact length_glue_le (Layout.trimEnd_segments_prefix p.layout)
    have hlonger : (glue init).length < (glue (init ++ [w])).length := by
      cases init with
      | nil => exact hne
      | cons v init =>
        rw [glue_concat (List.cons_ne_nil v init), List.length_append, List.length_cons]
        omega
    omega

/-! ### Climbing -/

/-- As many steps as a path has characters lead to the top. -/
lemma ancestry_climb {n : Nat} {p : Path} (h : p.text.length ≤ n) : Ancestry p (climb n p) := by
  induction n generalizing p with
  | zero =>
    cases hparent : p.parent? with
    | none => exact .top hparent
    | some q =>
      have hlt := length_lt_of_parent? hparent
      omega
  | succ n ih =>
    rw [climb]
    cases hparent : p.parent? with
    | none => exact .top hparent
    | some q =>
      have hlt := length_lt_of_parent? hparent
      exact .up hparent (ih (by omega))

/-- **Climbing from a path gives the path and all directories above it.** -/
theorem ancestry_ancestors (p : Path) : Ancestry p p.ancestors := ancestry_climb (Nat.le_refl _)

/-- There are no more directories than the text of the path has characters, and the path itself. -/
lemma Ancestry.length_le {p : Path} {dirs : List Path} (h : Ancestry p dirs) :
    dirs.length ≤ p.text.length + 1 := by
  induction h with
  | top => exact Nat.le_add_left 1 _
  | up hparent _ ih =>
    have hlt := length_lt_of_parent? hparent
    rw [List.length_cons]
    omega

end PageConfig.Path
