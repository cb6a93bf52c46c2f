import PageConfig.Proofs.Path.Places

/-!
# Paths as they are shown

A path that lies below a root is shown by the names that lead from the root to
it, any other path as it is.  Whole names count: a root is a first part of the
names of a path, not of its text (`below?_path`).  For the paths of places this
tells every character of what is shown.

However a path is spelled, what is shown of it leads back to it from the root
(`same_join_display`).
-/

namespace PageConfig

namespace Path

instance (s : String) : Decidable (IsName s) :=
  decidable_of_iff ('/' ∉ s.toList ∧ segment? s.toList = some (.name s))
    ⟨fun ⟨hslash, hsegment⟩ => ⟨hslash, hsegment⟩, fun h => ⟨h.not_slash, h.segment⟩⟩

/-- A segment that stands for a name is not blank. -/
lemma IsName.not_blank {n : String} (h : IsName n) : blank n.toList = false := by
  rw [blank, h.segment]
  rfl

/-- Some names lead on from a directory to a path. -/
def LiesBelow (dir p : Path) : Prop :=
  ∃ names : List String, names ≠ [] ∧ p.components = dir.components ++ names.map .name

/-- What is shown of a path without backslashes is its rest below the root, or the path itself. -/
lemma display_eq {root p : Path} (h : '\\' ∉ ((p.below? root).getD p).text.toList) :
    display root p = ((p.below? root).getD p).text := by
  rw [display, ← String.toList_inj, String.toList_map]
  refine (List.map_congr_left fun c hc => ?_).trans (List.map_id _)
  rw [if_neg]
  · rfl
  · rintro rfl
    exact h hc

/-! ### What is shown leads back -/

/-- Segments stand for the components that are looked for in them, and for what is left. -/
lemma after_eq_some {cs : List Component} {ws rest : List (List Char)}
    (h : after cs ws = some rest) :
    ws.filterMap segment? = cs ++ rest.filterMap segment? ∧ rest <:+ ws := by
  fun_induction after cs ws with
  | case1 ws =>
    obtain rfl := Option.some.inj h
    exact ⟨rfl, List.suffix_rfl⟩
  | case2 c cs => cases h
  | case3 c cs w ws hblank ih =>
    obtain ⟨hsteps, hsuffix⟩ := ih h
    exact ⟨by rw [List.filterMap_cons_none hblank, hsteps], hsuffix.trans (List.suffix_cons w ws)⟩
  | case4 cs w ws d hd ih =>
    obtain ⟨hsteps, hsuffix⟩ := ih h
    refine ⟨?_, hsuffix.trans (List.suffix_cons w ws)⟩
    rw [List.filterMap_cons_some hd, hsteps, List.cons_append]
  | case5 c cs w ws d hd hne => cases h

/-- Segments without the blank ones at both ends. -/
def trim (ws : List (List Char)) : List (List Char) :=
  ((ws.dropWhile blank).reverse.dropWhile blank).reverse

/-- What is trimmed is part of the segments. -/
lemma mem_of_mem_trim {ws : List (List Char)} {w : List Char} (hw : w ∈ trim ws) : w ∈ ws := by
  have hend := (List.dropWhile_suffix blank).subset (List.mem_reverse.mp hw)
  exact (List.dropWhile_suffix blank).subset (List.mem_reverse.mp hend)

/-- Trimmed segments stand for the same steps. -/
lemma filterMap_trim (ws : List (List Char)) :
    (trim ws).filterMap segment? = ws.filterMap segment? := by
  have hnone : (ws.takeWhile blank).filterMap segment? = [] := by
    rw [List.filterMap_eq_nil_iff]
    intro w hw
    simpa [blank] using List.all_eq_true.mp List.all_takeWhile w hw
  have hsplit := congrArg (List.filterMap segment?)
    (List.takeWhile_append_dropWhile (p := blank) (l := ws))
  rw [List.filterMap_append, hnone, List.nil_append] at hsplit
  rw [trim, filterMap_dropWhile_blank, hsplit]

/-- Trimmed segments do not start with an empty one. -/
lemma head?_trim_ne (ws : List (List Char)) : (trim ws).head? ≠ some [] := by
  have hprefix : trim ws <+: ws.dropWhile blank := by
    rw [trim, ← List.reverse_suffix, List.reverse_reverse]
    exact List.dropWhile_suffix blank
  intro hhead
  obtain ⟨rest, hrest⟩ := hprefix
  have hblank := List.head?_dropWhile_not blank ws
  rw [← hrest, List.head?_append, hhead] at hblank
  cases hblank

namespace Rooted

variable {root p rest : Path} (hroot : root.Rooted) (hp : p.Rooted)
include hroot hp

/-- The rest of a path below a root, as segments of the path: with the steps of the root in front,
they are the steps of the path. -/
lemma exists_rest (h : p.below? root = some rest) :
    ∃ ws, (∀ w ∈ ws, w ∈ cut p.text.toList) ∧ ws.head? ≠ some [] ∧
      rest = (⟨false, ws⟩ : Layout).toPath ∧ p.steps = root.steps ++ ws.filterMap segment? := by
  obtain ⟨cs, hcs⟩ := hp.exists_text
  obtain ⟨ds, hds⟩ := List.head?_eq_some_iff.mp hroot
  have hcut : cut p.text.toList = [] :: cut cs := by simp [hcs, cut]
  have hsteps : p.steps = .root :: (cut cs).filterMap segment? := by
    rw [steps_eq, stepsOf, hcut, hcs]
    rfl
  have hlayout : p.layout.opening = (some .root, cut cs) := by
    simp [layout, hcs, Layout.opening]
  rw [below?, hroot.components_eq, hds, hlayout] at h
  simp only [if_true] at h
  obtain ⟨left, hleft, rfl⟩ := Option.map_eq_some_iff.mp h
  obtain ⟨hall, hsuffix⟩ := after_eq_some hleft
  refine ⟨trim left, ?_, head?_trim_ne left, rfl, ?_⟩
  · intro w hw
    rw [hcut]
    exact List.mem_cons_of_mem _ (hsuffix.subset (mem_of_mem_trim hw))
  · rw [hsteps, hall, hds, filterMap_trim, List.cons_append]

/-- Seen from the root, the rest of a path below it leads to the path. -/
lemma steps_join_rest (h : p.below? root = some rest) : (root.join rest).steps = p.steps := by
  obtain ⟨ws, hws, hhead, rfl, hsteps⟩ := hroot.exists_rest hp h
  have hslash : ∀ w ∈ ws, '/' ∉ w := fun w hw => not_slash_mem_of_mem_cut (hws w hw)
  have hrest : ((⟨false, ws⟩ : Layout).toPath).steps = ws.filterMap segment? :=
    Layout.steps_toPath hslash fun _ => hhead
  rw [steps_join, hrest, hsteps]
  -- a slash in front would make the rest start at the root
  intro hfirst
  obtain ⟨cs, hcs⟩ := List.head?_eq_some_iff.mp hfirst
  have hrooted := rooted_of_text hcs
  rw [Rooted, hrest] at hrooted
  obtain ⟨w, -, hw⟩ := List.mem_filterMap.mp (List.mem_of_mem_head? hrooted)
  exact segment?_ne_root w hw

/-- The rest of a path has no character that the path does not have, slashes apart. -/
lemma mem_of_mem_rest (h : p.below? root = some rest) {c : Char} (hslash : c ≠ '/')
    (hc : c ∈ rest.text.toList) : c ∈ p.text.toList := by
  obtain ⟨ws, hws, -, rfl, -⟩ := hroot.exists_rest hp h
  have hglue : c ∈ glue ws := by simpa [Layout.toPath] using hc
  obtain ⟨w, hw, hcw⟩ := (mem_glue hslash ws).mp hglue
  rw [← glue_cut p.text.toList, mem_glue hslash]
  exact ⟨w, hws w hw, hcw⟩

end Rooted

/-- Seen from the root, what is shown of a path without backslashes is the path. -/
theorem same_join_display {root p : Path} (hroot : root.isAbsolute = true)
    (hp : p.isAbsolute = true) (hbackslash : '\\' ∉ p.text.toList) :
    (root.join ⟨display root p⟩).same p = true := by
  have hroot' := rooted_of_isAbsolute hroot
  have hp' := rooted_of_isAbsolute hp
  cases hbelow : p.below? root with
  | none =>
    obtain ⟨cs, hcs⟩ := hp'.exists_text
    rw [display_eq, hbelow, Option.getD_none, join_of_head? (by simp [hcs])]
    · exact same_refl p
    · rwa [hbelow]
  | some rest =>
    rw [display_eq, hbelow, Option.getD_some]
    · exact (hroot'.join rest).same_of_steps hp' (hroot'.steps_join_rest hp' hbelow)
    · rw [hbelow]
      exact fun hmem => hbackslash (hroot'.mem_of_mem_rest hp' hbelow (by decide) hmem)

end Path

namespace Place

open PageConfig.Path (IsName glue after blank trim)

variable {root names : Place}

instance (names : Place) : Decidable names.Named := List.decidableBAll _ names

/-- Names with slashes between them. -/
lemma toList_text (names : Place) :
    ("/".intercalate names).toList = glue (names.map String.toList) := by
  rw [String.toList_intercalate]
  exact Path.intercalate_eq_glue _

/-- What is left of the segments of names after some of them. -/
lemma Named.after_eq (h : names.Named) (root : Place) :
    after (root.map .name) (names.map String.toList)
      = if root <+: names then some ((names.drop root.length).map String.toList) else none := by
  induction root generalizing names with
  | nil => simp [after]
  | cons r root ih =>
    cases names with
    | nil => simp [after]
    | cons n names =>
      have hn : IsName n := h n List.mem_cons_self
      have hrest : Named names := fun m hm => h m (List.mem_cons_of_mem n hm)
      rw [List.map_cons, List.map_cons, after, hn.segment]
      by_cases hr : r = n
      · simp [hr, ih hrest, List.cons_prefix_cons]
      · simp [hr, List.cons_prefix_cons]

/-- No segment of named places is blank, so none is dropped at the ends. -/
lemma Named.trim_eq (h : names.Named) :
    trim (names.map String.toList) = names.map String.toList := by
  have hkeep : ∀ ws : List (List Char), (∀ w ∈ ws, blank w = false) → ws.dropWhile blank = ws := by
    intro ws hws
    cases ws with
    | nil => rfl
    | cons w ws => rw [List.dropWhile_cons_of_neg (by simp [hws w List.mem_cons_self])]
  have hblank : ∀ w ∈ names.map String.toList, blank w = false := by
    intro w hw
    obtain ⟨n, hn, rfl⟩ := List.mem_map.mp hw
    exact (h n hn).not_blank
  rw [trim, hkeep _ hblank, hkeep _ fun w hw => hblank w (List.mem_reverse.mp hw), List.reverse_reverse]

/-- The spelling of the path of a place. -/
lemma Named.layout_path (h : names.Named) :
    names.path.layout = ⟨true, if names = [] then [[]] else names.map String.toList⟩ := by
  rw [Path.layout, toList_path]
  simp [h.cut_glue]

/-- **The rest of a place below another one**: the names that lead on, if they start with those of
the other place. -/
theorem Named.below?_path (h : names.Named) (hroot : root.Named) :
    names.path.below? root.path
      = if root <+: names then some ⟨"/".intercalate (names.drop root.length)⟩ else none := by
  have htext : ∀ rest : Place, Path.mk (String.ofList (glue (rest.map String.toList)))
      = ⟨"/".intercalate rest⟩ := by
    intro rest
    rw [Path.mk.injEq, ← String.toList_inj, String.toList_ofList, toList_text]
  rw [Path.below?, hroot.components_path, h.layout_path]
  by_cases hnil : names = []
  · -- the root is cut into one empty segment, which is dropped
    subst hnil
    cases root with
    | nil =>
      simp only [Path.Layout.opening, List.map_nil, after, if_true, Option.map_some]
      rfl
    | cons r root => simp [Path.Layout.opening, after, Path.segment?]
  · simp only [Path.Layout.opening, if_neg hnil, if_true, h.after_eq]
    split
    · rename_i hprefix
      have hrest : Named (names.drop root.length) := fun n hn => h n (List.mem_of_mem_drop hn)
      rw [Option.map_some, ← trim, hrest.trim_eq, htext]
    · rfl

end Place

end PageConfig
