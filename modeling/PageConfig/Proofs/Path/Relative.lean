import PageConfig.Proofs.Path.Reference

/-!
# Relative paths lead to their goals

A reference leaves the extension of its target out; a relative path leaves out
nothing, so that joining undoes it.  Seen from the directory it starts in, the
way up takes back what the directory does not share with the goal, and the rest
of the way is what is left of the goal (`SameBase.settled_join_relative`).  The
goal may be the directory itself, where the way is empty, or lie above it.

Only normal forms count on both sides (`relative_congr`), and the way is relative
whatever it leads to.
-/

namespace PageConfig.Path

variable {start start' goal goal' : Path}

/-- A relative path depends on the normal forms of its two ends only. -/
lemma relative_congr (hstart : start.normalize = start'.normalize)
    (hgoal : goal.normalize = goal'.normalize) : relative start goal = relative start' goal' := by
  have hsettled : ∀ {p q : Path}, p.normalize = q.normalize → p.settled = q.settled := by
    intro p q h
    rw [← steps_normalize p, h, steps_normalize]
  rw [relative, relative, settle_components, settle_components, settle_components,
    settle_components, hsettled hstart, hsettled hgoal]

/-- Two relative paths share a base if the first does not go up from it. -/
lemma SameBase.of_not_up (hstart : start.isAbsolute = false) (hgoal : goal.isAbsolute = false)
    (hup : Component.up ∉ start.normalize.components) : SameBase start goal := by
  have hsettled : Component.up ∉ start.settled := by
    rw [← steps_normalize]
    exact fun hmem => hup (List.mem_of_mem_filter hmem)
  refine ⟨hstart.trans hgoal.symm, ?_⟩
  rw [List.count_eq_zero.mpr hsettled]
  exact Nat.zero_le _

namespace SameBase

variable (h : SameBase start goal)
include h

/-- The way between two places is relative. -/
lemma isAbsolute_relative : (relative start goal).isAbsolute = false := by
  rw [isAbsolute, h.components_relative, beq_eq_false_iff_ne]
  intro hroot
  have hstep := h.isStep_of_mem_lead .root (List.mem_of_mem_head? hroot)
  exact segment?_ne_root _ hstep.segment

/-- The steps of the way between two places. -/
lemma steps_relative : (relative start goal).steps = lead start.settled goal.settled := by
  rw [steps, h.components_relative, List.filter_eq_self]
  intro c hc
  have hne : c ≠ .here := by
    rintro rfl
    exact segment?_ne_here _ (h.isStep_of_mem_lead .here hc).segment
  simpa using hne

/-- Seen from the directory it starts in, the way leads to its goal. -/
theorem settled_join_relative : (start.join (relative start goal)).settled = goal.settled := by
  obtain ⟨common, behind, ahead, way⟩ := h.exists_way
  have hhead : (relative start goal).text.toList.head? ≠ some '/' := by
    intro hslash
    obtain ⟨cs, hcs⟩ := List.head?_eq_some_iff.mp hslash
    have habsolute := (rooted_of_text hcs).isAbsolute
    rw [h.isAbsolute_relative] at habsolute
    cases habsolute
  rw [settled, steps_join hhead, h.steps_relative, settle_append, way.lead_eq, way.settle_append,
    ← way.goal_eq, settle_of_normalWalk (normalWalk_settled goal)]

end SameBase

/-- **Joining undoes a relative path.**  If both ends are absolute, or both are relative and the
directory does not go up from where relative paths start, then the path from the directory to the
goal is relative and leads to the goal.  What it is depends on the normal forms of its two ends
only. -/
theorem relative_inverts_join (start goal : Path) :
    ((start.isAbsolute = true ∧ goal.isAbsolute = true) ∨
        (start.isAbsolute = false ∧ goal.isAbsolute = false ∧
          Component.up ∉ start.normalize.components) →
      (start.join (relative start goal)).normalize = goal.normalize ∧
        (relative start goal).isAbsolute = false) ∧
    ∀ start' goal' : Path, start'.normalize = start.normalize → goal'.normalize = goal.normalize →
      relative start' goal' = relative start goal := by
  refine ⟨fun hends => ?_, fun start' goal' hstart hgoal => relative_congr hstart hgoal⟩
  have hbase : SameBase start goal := by
    rcases hends with ⟨hstart, hgoal⟩ | ⟨hstart, hgoal, hup⟩
    · exact .of_isAbsolute hstart hgoal
    · exact .of_not_up hstart hgoal hup
  exact ⟨normalize_eq_of_settled hbase.settled_join_relative, hbase.isAbsolute_relative⟩

/-- From a directory that is spelled with a detour to one that goes up further than it starts. -/
theorem relative_inverts_join_detour :
    Component.up ∉ (⟨"./a//b/../c"⟩ : Path).normalize.components ∧
      relative ⟨"./a//b/../c"⟩ ⟨"../x/."⟩ = ⟨"../../../x"⟩ ∧
      ((⟨"./a//b/../c"⟩ : Path).join ⟨"../../../x"⟩).normalize = (⟨"../x/."⟩ : Path).normalize ∧
      relative ⟨"a/c"⟩ ⟨"../x"⟩ = relative ⟨"./a//b/../c"⟩ ⟨"../x/."⟩ := by
  have hup : Component.up ∉ (⟨"./a//b/../c"⟩ : Path).normalize.components := by decide
  have hway : relative ⟨"./a//b/../c"⟩ ⟨"../x/."⟩ = ⟨"../../../x"⟩ := by decide
  obtain ⟨hjoin, hcongr⟩ := relative_inverts_join ⟨"./a//b/../c"⟩ ⟨"../x/."⟩
  have hleads := (hjoin (Or.inr ⟨by decide, by decide, hup⟩)).1
  rw [hway] at hleads
  exact ⟨hup, hway, hleads, hcongr _ _ (by decide) (by decide)⟩

/-- A directory above where relative paths start has no name to go back by. -/
example : ((⟨".."⟩ : Path).join (relative ⟨".."⟩ ⟨"x"⟩)).normalize = ⟨"../../x"⟩ := by decide

end PageConfig.Path
