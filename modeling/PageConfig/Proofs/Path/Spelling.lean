import Mathlib.Data.List.Basic
import Mathlib.Tactic.Lemma
import PageConfig.Path.Normal

/-!
# Spellings of a path

A path has many spellings, and two spellings are the same path when their
components are equal.  Everything that is worked out from a path by joining,
taking parents and normalising depends on its *steps* alone: the components
without the dot that may open a relative path.  The steps are read off the
text in one go, as the segments between slashes with the blank ones left out,
and they turn `join` into `++` and `parent` into `dropLast`.
-/

namespace PageConfig.Path

/-! ### Sameness -/

/-- Sameness is equality of components. -/
lemma same_iff {p q : Path} : p.same q = true ↔ p.components = q.components := by
  simp [same]

/-- A path is the same as itself. -/
@[simp] lemma same_refl (p : Path) : p.same p = true := same_iff.mpr rfl

/-- Sameness does not depend on the side. -/
lemma same_symm {p q : Path} (h : p.same q = true) : q.same p = true :=
  same_iff.mpr (same_iff.mp h).symm

/-- Sameness carries over. -/
lemma same_trans {p q r : Path} (h : p.same q = true) (h' : q.same r = true) :
    p.same r = true :=
  same_iff.mpr ((same_iff.mp h).trans (same_iff.mp h'))

/-- A path is among others when one of them is the same, in whatever spelling. -/
def Among (ps : List Path) (p : Path) : Prop := ∃ q ∈ ps, q.same p = true

/-- A member of a list is among its members. -/
lemma among_of_mem {ps : List Path} {p : Path} (h : p ∈ ps) : Among ps p := ⟨p, h, same_refl p⟩

/-- Being among others does not depend on the spelling. -/
lemma Among.congr {ps : List Path} {p q : Path} (h : Among ps p) (hpq : p.same q = true) :
    Among ps q := by
  obtain ⟨r, hr, hrp⟩ := h
  exact ⟨r, hr, same_trans hrp hpq⟩

/-- A path that is among some is among more. -/
lemma Among.mono {ps qs : List Path} {p : Path} (h : Among ps p) (hsub : ∀ q ∈ ps, q ∈ qs) :
    Among qs p := by
  obtain ⟨r, hr, hrp⟩ := h
  exact ⟨r, hsub r hr, hrp⟩

/-- A path is among two lists together when it is among one of them. -/
lemma among_append {ps qs : List Path} {p : Path} :
    Among (ps ++ qs) p ↔ Among ps p ∨ Among qs p := by
  simp only [Among, List.mem_append, or_and_right, exists_or]

/-- A path is among a list when it is the same as its head or among its tail. -/
lemma among_cons {q : Path} {ps : List Path} {p : Path} :
    Among (q :: ps) p ↔ q.same p = true ∨ Among ps p := by
  simp only [Among, List.exists_mem_cons_iff]

/-! ### Cutting at slashes -/

/-- There is always a segment. -/
lemma cut_ne_nil (cs : List Char) : cut cs ≠ [] := by
  cases cs with
  | nil => simp [cut]
  | cons c cs =>
    by_cases hc : c = '/'
    · simp [cut, hc]
    · cases hw : cut cs with
      | nil => simp [cut, hc, hw]
      | cons w ws => simp [cut, hc, hw]

/-- Text is cut on both sides of a slash on its own. -/
lemma cut_append_slash (as bs : List Char) : cut (as ++ '/' :: bs) = cut as ++ cut bs := by
  induction as with
  | nil => simp [cut]
  | cons a as ih =>
    by_cases ha : a = '/'
    · simp [cut, ha, ih]
    · cases hw : cut as with
      | nil => exact absurd hw (cut_ne_nil as)
      | cons w ws => simp [cut, ha, ih, hw]

/-- Text without a slash is one segment. -/
lemma cut_eq_singleton {w : List Char} (hw : '/' ∉ w) : cut w = [w] := by
  induction w with
  | nil => rfl
  | cons c w ih =>
    obtain ⟨hc, hrest⟩ : '/' ≠ c ∧ '/' ∉ w := by simpa using hw
    simp [cut, Ne.symm hc, ih hrest]

/-- No segment has a slash in it. -/
lemma not_slash_mem_of_mem_cut {cs w : List Char} (hw : w ∈ cut cs) : '/' ∉ w := by
  induction cs generalizing w with
  | nil =>
    obtain rfl : w = [] := by simpa [cut] using hw
    simp
  | cons c cs ih =>
    by_cases hc : c = '/'
    · rcases List.mem_cons.mp (by simpa [cut, hc] using hw) with rfl | h
      · simp
      · exact ih h
    · cases hws : cut cs with
      | nil => exact absurd hws (cut_ne_nil cs)
      | cons v vs =>
        have hv : '/' ∉ v := ih (by simp [hws])
        rcases List.mem_cons.mp (by simpa [cut, hc, hws] using hw) with rfl | h
        · simp [Ne.symm hc, hv]
        · exact ih (by simp [hws, h])

/-- Segments that are put together are cut apart again. -/
lemma cut_glue {ws : List (List Char)} (hne : ws ≠ []) (hws : ∀ w ∈ ws, '/' ∉ w) :
    cut (glue ws) = ws := by
  induction ws with
  | nil => exact absurd rfl hne
  | cons w ws ih =>
    have hw : '/' ∉ w := hws w (by simp)
    cases ws with
    | nil => exact cut_eq_singleton hw
    | cons v vs =>
      rw [glue, cut_append_slash, cut_eq_singleton hw,
        ih (by simp) fun u hu => hws u (List.mem_cons_of_mem w hu)]
      · rfl
      · simp

/-! ### Steps -/

/-- The components of a path without the dot that opens a relative one. -/
def steps (p : Path) : List Component := p.components.filter (· ≠ .here)

/-- The steps that text stands for: the root if a slash opens it, and its segments. -/
def stepsOf (cs : List Char) : List Component :=
  (if cs.head? = some '/' then [.root] else []) ++ (cut cs).filterMap segment?

/-- No segment stands for an opening dot. -/
lemma segment?_ne_here (w : List Char) : segment? w ≠ some .here := by
  unfold segment?
  split <;> simp

/-- No segment stands for the root. -/
lemma segment?_ne_root (w : List Char) : segment? w ≠ some .root := by
  unfold segment?
  split <;> simp

/-- Segments stand for steps only. -/
lemma filter_filterMap_segment? (ws : List (List Char)) :
    (ws.filterMap segment?).filter (· ≠ .here) = ws.filterMap segment? := by
  rw [List.filter_eq_self]
  intro c hc
  obtain ⟨w, -, hw⟩ := List.mem_filterMap.mp hc
  have hne : c ≠ .here := fun h => segment?_ne_here w (h ▸ hw)
  simpa using hne

/-- The steps of a spelling: the root if it is absolute, and its segments. -/
def Layout.steps (l : Layout) : List Component :=
  (if l.absolute then [.root] else []) ++ l.segments.filterMap segment?

/-- The steps of a spelling are its components without an opening dot. -/
lemma Layout.filter_components (l : Layout) :
    l.components.filter (· ≠ .here) = l.steps := by
  have hseg := filter_filterMap_segment?
  unfold Layout.components Layout.opening Layout.steps
  split
  · rename_i c rest h
    split at h
    · rename_i habs
      obtain ⟨rfl, rfl⟩ : Component.root = c ∧ l.segments = rest := by simpa using h
      rw [List.filter_cons_of_pos (by simp), hseg]
      simp [habs]
    · rename_i habs
      split at h
      · rename_i tail htail
        obtain ⟨rfl, rfl⟩ : Component.here = c ∧ tail = rest := by simpa using h
        rw [List.filter_cons_of_neg (by simp), hseg, htail]
        simp [habs, segment?]
      · simp at h
  · rename_i rest h
    split at h
    · simp at h
    · rename_i habs
      split at h
      · simp at h
      · obtain rfl : l.segments = rest := by simpa using h
        rw [hseg]
        simp [habs]

/-- The steps of a path are read off its text. -/
lemma steps_eq (p : Path) : p.steps = stepsOf p.text.toList := by
  unfold steps components layout stepsOf
  rw [Layout.filter_components, Layout.steps]
  cases p.text.toList with
  | nil => simp [cut, segment?]
  | cons c cs =>
    by_cases hc : c = '/'
    · simp [cut, hc, segment?, List.filterMap_cons]
    · simp [hc]

/-- Spellings of one path have the same steps. -/
lemma steps_congr {p q : Path} (h : p.same q = true) : p.steps = q.steps := by
  rw [steps, steps, same_iff.mp h]

/-! ### Joining -/

/-- Steps of text on both sides of a slash; the first part may not be empty, or the slash would
open the whole. -/
lemma stepsOf_append_slash {as : List Char} (bs : List Char) (has : as ≠ []) :
    stepsOf (as ++ '/' :: bs) = stepsOf as ++ (cut bs).filterMap segment? := by
  have hhead : (as ++ '/' :: bs).head? = as.head? := by
    cases as with
    | nil => exact absurd rfl has
    | cons a as => rfl
  rw [stepsOf, stepsOf, hhead, cut_append_slash, List.filterMap_append, List.append_assoc]

/-- A slash at the end says nothing. -/
lemma stepsOf_append_singleton_slash {as : List Char} (has : as ≠ []) :
    stepsOf (as ++ ['/']) = stepsOf as := by
  rw [stepsOf_append_slash [] has]
  simp [cut, segment?]

/-- Text that no slash opens stands for its segments. -/
lemma stepsOf_of_head? {cs : List Char} (h : cs.head? ≠ some '/') :
    stepsOf cs = (cut cs).filterMap segment? := by
  simp [stepsOf, h]

/-- A path that a slash opens stands for itself, wherever it is seen from. -/
lemma join_of_head? {q : Path} (h : q.text.toList.head? = some '/') (p : Path) : p.join q = q := by
  obtain ⟨cs, hcs⟩ := List.head?_eq_some_iff.mp h
  unfold join
  split
  · rfl
  · rename_i hno
    exact absurd hcs (hno cs)

/-- A path seen from another one has the steps of both. -/
lemma steps_join {p q : Path} (hq : q.text.toList.head? ≠ some '/') :
    (p.join q).steps = p.steps ++ q.steps := by
  have hjoin : p.join q
      = if p.text.isEmpty || p.text.toList.getLast? == some '/' then ⟨p.text ++ q.text⟩
        else ⟨p.text ++ "/" ++ q.text⟩ := by
    unfold join
    split
    · rename_i h
      simp [h] at hq
    · rfl
  rw [hjoin, steps_eq p, steps_eq q, stepsOf_of_head? hq]
  split
  · rename_i hp
    rw [steps_eq, String.toList_append]
    rcases (Bool.or_eq_true _ _).mp hp with hempty | hlast
    · have hnil : p.text.toList = [] := by simpa using hempty
      rw [hnil, List.nil_append, stepsOf_of_head? hq]
      simp [stepsOf, cut, segment?]
    · obtain ⟨as, has⟩ : ∃ as, p.text.toList = as ++ ['/'] := by
        rw [beq_iff_eq, List.getLast?_eq_some_iff] at hlast
        exact hlast
      rw [has, List.append_assoc, List.singleton_append]
      cases as with
      | nil => simp [stepsOf, cut, segment?, List.filterMap_cons]
      | cons a as =>
        rw [stepsOf_append_slash _ (by simp), stepsOf_append_singleton_slash (by simp)]
  · rename_i hp
    have hne : p.text.toList ≠ [] := by
      intro hnil
      exact hp (by simp [String.isEmpty_iff, String.toList_eq_nil_iff.mp hnil])
    have htext : (p.text ++ "/" ++ q.text).toList = p.text.toList ++ '/' :: q.text.toList := by
      simp [String.toList_append]
    rw [steps_eq, htext, stepsOf_append_slash _ hne]

/-! ### Parents -/

/-- Segments at the end that stand for no component say nothing. -/
lemma filterMap_dropWhile {silent : List Char → Bool}
    (hsilent : ∀ w, silent w = true → segment? w = none) (ws : List (List Char)) :
    ((ws.reverse.dropWhile silent).reverse).filterMap segment? = ws.filterMap segment? := by
  have hsplit : ws
      = (ws.reverse.dropWhile silent).reverse ++ (ws.reverse.takeWhile silent).reverse := by
    rw [← List.reverse_append, List.takeWhile_append_dropWhile, List.reverse_reverse]
  have hnone : ((ws.reverse.takeWhile silent).reverse).filterMap segment? = [] := by
    rw [List.filterMap_eq_nil_iff]
    intro w hw
    exact hsilent w (List.all_eq_true.mp (List.all_takeWhile) w (List.mem_reverse.mp hw))
  conv_rhs => rw [hsplit, List.filterMap_append, hnone, List.append_nil]

/-- Blank segments at the end say nothing. -/
lemma filterMap_dropWhile_blank (ws : List (List Char)) :
    ((ws.reverse.dropWhile blank).reverse).filterMap segment? = ws.filterMap segment? := by
  apply filterMap_dropWhile
  intro w hw
  simpa [blank] using hw

/-- Once blank segments are dropped at the end, what is left ends with none. -/
lemma dropWhile_blank_cases (ws : List (List Char)) :
    (ws.reverse.dropWhile blank).reverse = [] ∨
      ∃ init w, (ws.reverse.dropWhile blank).reverse = init ++ [w] ∧ blank w = false := by
  cases hd : ws.reverse.dropWhile blank with
  | nil => exact Or.inl rfl
  | cons w rest =>
    refine Or.inr ⟨rest.reverse, w, by simp, ?_⟩
    have hhead := List.head?_dropWhile_not blank ws.reverse
    rw [hd] at hhead
    simpa using hhead

namespace Layout

/-- Dropping blank ends keeps the opening slash. -/
lemma trimEnd_absolute (l : Layout) : l.trimEnd.absolute = l.absolute := by
  unfold trimEnd
  split
  · rfl
  · split <;> rfl

/-- Dropping blank ends keeps the steps. -/
lemma steps_trimEnd (l : Layout) : l.trimEnd.steps = l.steps := by
  rw [steps, steps, trimEnd_absolute]
  congr 1
  unfold trimEnd
  split
  · exact filterMap_dropWhile_blank l.segments
  · split
    · rename_i rest hrest
      simp only [hrest, List.filterMap_cons, filterMap_dropWhile_blank]
    · exact filterMap_dropWhile_blank l.segments

/-- Dropping blank ends leaves a first part of the segments. -/
lemma trimEnd_segments_prefix (l : Layout) : l.trimEnd.segments <+: l.segments := by
  have htrim : ∀ ws : List (List Char), (ws.reverse.dropWhile blank).reverse <+: ws := by
    intro ws
    rw [← List.reverse_suffix, List.reverse_reverse]
    exact List.dropWhile_suffix blank
  unfold trimEnd
  split
  · exact htrim l.segments
  · split
    · rename_i rest hrest
      rw [hrest]
      exact (List.cons_prefix_cons).mpr ⟨rfl, htrim rest⟩
    · exact htrim l.segments

/-- What is left once blank ends are dropped: nothing but the opening, or segments the last of
which stands for a step. -/
lemma trimEnd_cases (l : Layout) :
    (l.trimEnd.segments.filterMap segment? = [] ∧ l.trimEnd.segments.dropLast = []) ∨
      ∃ init w, l.trimEnd.segments = init ++ [w] ∧ blank w = false := by
  unfold trimEnd
  split
  · rcases dropWhile_blank_cases l.segments with h | h
    · exact Or.inl (by simp [h])
    · exact Or.inr h
  · split
    · rename_i rest hrest
      rcases dropWhile_blank_cases rest with h | ⟨init, w, h, hw⟩
      · exact Or.inl (by simp [h, segment?])
      · exact Or.inr ⟨['.'] :: init, w, by simp [h], hw⟩
    · rcases dropWhile_blank_cases l.segments with h | h
      · exact Or.inl (by simp [h])
      · exact Or.inr h

/-- The path of a spelling has its steps, if its segments have no slash and a relative spelling
does not start with an empty one. -/
lemma steps_toPath {l : Layout} (hslash : ∀ w ∈ l.segments, '/' ∉ w)
    (hrel : l.absolute = false → l.segments.head? ≠ some []) : l.toPath.steps = l.steps := by
  rw [Path.steps_eq, toPath, steps, String.toList_ofList]
  have hglue : (cut (glue l.segments)).filterMap segment? = l.segments.filterMap segment? := by
    cases hs : l.segments with
    | nil => simp [glue, cut, segment?]
    | cons w ws => rw [cut_glue (by simp) (by rwa [← hs])]
  cases habs : l.absolute with
  | true => simp [stepsOf, cut, segment?, List.filterMap_cons, hglue]
  | false =>
    have hhead : (glue l.segments).head? ≠ some '/' := by
      cases hs : l.segments with
      | nil => simp [glue]
      | cons w ws =>
        have hw : '/' ∉ w := hslash w (by simp [hs])
        have hne : w ≠ [] := by
          have := hrel habs
          simpa [hs] using this
        cases w with
        | nil => exact absurd rfl hne
        | cons c w =>
          have hc : c ≠ '/' := fun h => hw (by simp [h])
          cases ws with
          | nil => simpa [glue] using hc
          | cons v vs => simpa [glue] using hc
    simp [stepsOf_of_head? hhead, hglue]

end Layout

/-- The segments of a path have no slash. -/
lemma not_slash_mem_of_mem_segments {p : Path} {w : List Char} (hw : w ∈ p.layout.segments) :
    '/' ∉ w := by
  unfold layout at hw
  split at hw
  · simp at hw
  · split at hw <;> exact not_slash_mem_of_mem_cut hw

/-- A relative path does not start with an empty segment. -/
lemma head?_segments_ne_nil {p : Path} (h : p.layout.absolute = false) :
    p.layout.segments.head? ≠ some [] := by
  unfold layout at h ⊢
  split at h
  · simp
  · rename_i c cs _
    split at h
    · simp at h
    · rename_i hc
      cases hcut : cut cs with
      | nil => exact absurd hcut (cut_ne_nil cs)
      | cons w ws => simp [hc, cut, hcut]

/-- Only the root ends with the root. -/
lemma Layout.steps_of_getLast?_root {l : Layout} (h : l.components.getLast? = some .root) :
    l.steps = [.root] := by
  have hroot : ∀ ws : List (List Char), (ws.filterMap segment?).getLast? ≠ some .root := by
    intro ws hlast
    obtain ⟨w, -, hw⟩ := List.mem_filterMap.mp (List.mem_of_getLast? hlast)
    exact segment?_ne_root w hw
  rw [← Layout.filter_components]
  unfold Layout.components at h ⊢
  split at h
  · rename_i c rest _
    rw [List.getLast?_cons] at h
    cases hlast : (rest.filterMap segment?).getLast? with
    | some d =>
      rw [hlast] at h
      exact absurd (hlast.trans h) (hroot rest)
    | none =>
      rw [hlast] at h
      obtain rfl : c = .root := by simpa using h
      rw [List.getLast?_eq_none_iff.mp hlast]
      simp
  · exact absurd h (hroot _)

/-- The directory that holds a path has all its steps but the last. -/
lemma steps_parent (p : Path) : p.parent.steps = p.steps.dropLast := by
  set l := p.layout.trimEnd with hl
  have hsteps : p.steps = l.steps := by
    rw [hl, Layout.steps_trimEnd, steps, components, Layout.filter_components]
  have hprefix : l.segments <+: p.layout.segments := Layout.trimEnd_segments_prefix _
  have hempty : (⟨""⟩ : Path).steps = [] := by simp [steps_eq, stepsOf, cut, segment?]
  rw [parent, parent?, ← hl, hsteps]
  split
  · rename_i h
    have hnil : l.components = [] := List.getLast?_eq_none_iff.mp h
    rw [← Layout.filter_components, hnil, Option.getD_none, hempty]
    rfl
  · rename_i h
    rw [Layout.steps_of_getLast?_root h, Option.getD_none, hempty]
    rfl
  · rename_i c hroot hlast
    set l' : Layout := { l with segments := l.segments.dropLast } with hl'
    have hprefix' : l'.trimEnd.segments <+: p.layout.segments :=
      ((Layout.trimEnd_segments_prefix l').trans (List.dropLast_prefix _)).trans hprefix
    rw [Option.getD_some, Layout.steps_toPath, Layout.steps_trimEnd]
    · rcases Layout.trimEnd_cases p.layout with ⟨hnone, hdrop⟩ | ⟨init, w, hsegs, hw⟩
      · rw [← hl] at hnone hdrop
        have habs : l.absolute = false := by
          rw [Bool.eq_false_iff]
          intro habs
          have : l.components = [.root] := by
            simp [Layout.components, Layout.opening, habs, hnone]
          exact hroot (by simpa [this] using hlast.symm)
        simp [Layout.steps, hl', hdrop, hnone, habs]
      · rw [← hl] at hsegs
        obtain ⟨d, hd⟩ : ∃ d, segment? w = some d := by
          simpa [blank, Option.isNone_eq_false_iff, Option.isSome_iff_exists] using hw
        have hdrop : l.segments.dropLast = init := by simp [hsegs]
        simp only [Layout.steps, hl', hdrop]
        rw [hsegs, List.filterMap_append, ← List.append_assoc]
        simp [hd]
    · intro u hu
      exact not_slash_mem_of_mem_segments (hprefix'.subset hu)
    · intro habs
      have habs' : p.layout.absolute = false := by
        rw [← habs, Layout.trimEnd_absolute, hl', hl, Layout.trimEnd_absolute]
      intro hhead
      obtain ⟨rest, hrest⟩ := hprefix'
      refine head?_segments_ne_nil habs' ?_
      rw [← hrest, List.head?_append, hhead]
      rfl

/-! ### Normal forms -/

/-- An opening dot leads nowhere. -/
lemma settle_filter (cs : List Component) : settle (cs.filter (· ≠ .here)) = settle cs := by
  have hfold : ∀ done : List Component,
      (cs.filter (· ≠ .here)).foldl walk done = cs.foldl walk done := by
    induction cs with
    | nil => intro done; rfl
    | cons c cs ih =>
      intro done
      by_cases hc : c = .here
      · rw [List.filter_cons_of_neg (by simp [hc]), ih, List.foldl_cons, hc, walk]
      · rw [List.filter_cons_of_pos (by simp [hc]), List.foldl_cons, List.foldl_cons, ih]
  rw [settle, settle, hfold]

/-- Paths with the same steps have the same normal form. -/
lemma normalize_congr {p q : Path} (h : p.steps = q.steps) : p.normalize = q.normalize := by
  have hsettle : settle p.components = settle q.components := by
    rw [← settle_filter p.components, ← settle_filter q.components]
    exact congrArg settle h
  rw [normalize, normalize, hsettle]

/-- What a relative specifier stands for does not depend on how the file that holds it is
spelled. -/
theorem normalize_parent_join_congr {p q r : Path} (h : p.same q = true)
    (hr : r.text.toList.head? ≠ some '/') :
    (p.parent.join r).normalize = (q.parent.join r).normalize := by
  apply normalize_congr
  rw [steps_join hr, steps_join hr, steps_parent, steps_parent, steps_congr h]

end PageConfig.Path
