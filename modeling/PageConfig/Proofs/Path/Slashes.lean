import Mathlib.Data.List.DropRight
import PageConfig.Proofs.Path.Places

/-!
# Runs of slashes

Text with every run of slashes as a single one is a canonical form: it is the
only text with the same segments, empty ones left out, that has a slash at the
same ends and nowhere two in a row (`collapseSlashes_eq_iff`).

Two views of `collapse` carry the theory.  Segment by segment, it cuts the text
to its outline (`cut_collapse`): the filled segments, and an empty one for a
slash at either end.  Character by character, it puts each one in front of what
is collapsed already (`collapse_cons`), by a step that brings up no two slashes
in a row and does not tell a text from its collapsed form.  The first view gives
uniqueness.  The second one gives the law for texts that are put together
(`collapseSlashes_append`), where a run of slashes may reach from one text into
the other.
-/

namespace PageConfig.Path

/-! ### Segments and ends -/

/-- The segments between slashes that are not empty. -/
def filledSegments (cs : List Char) : List (List Char) := (cut cs).filter (· ≠ [])

/-- The filled segments, with an empty one for a slash at either end. -/
def outline (cs : List Char) : List (List Char) :=
  (if ['/'] <+: cs then [[]] else []) ++ filledSegments cs ++ if ['/'] <:+ cs then [[]] else []

/-- The text `t` has the segments and the ends of `s`, and no two slashes in a row. -/
structure Collapsed (s t : String) : Prop where
  single : ¬ ['/', '/'] <:+: t.toList
  segments_eq : filledSegments t.toList = filledSegments s.toList
  starts_iff : ['/'] <+: t.toList ↔ ['/'] <+: s.toList
  ends_iff : ['/'] <:+ t.toList ↔ ['/'] <:+ s.toList

section

variable {c d : Char} {cs w : List Char} {ws : List (List Char)}

/-- A slash cuts off an empty segment. -/
lemma cut_slash_cons (cs : List Char) : cut ('/' :: cs) = [] :: cut cs := by
  simp [cut]

/-- Any other character goes to the first segment. -/
lemma cut_cons (hc : c ≠ '/') (hcut : cut cs = w :: ws) : cut (c :: cs) = (c :: w) :: ws := by
  simp [cut, hc, hcut]

/-- A slash in front adds no filled segment. -/
@[simp] lemma filledSegments_slash_cons (cs : List Char) :
    filledSegments ('/' :: cs) = filledSegments cs := by
  simp [filledSegments, cut_slash_cons]

/-- Any other character in front fills the first segment. -/
lemma filledSegments_cons (hc : c ≠ '/') (hcut : cut cs = w :: ws) :
    filledSegments (c :: cs) = (c :: w) :: ws.filter (· ≠ []) := by
  simp [filledSegments, cut_cons hc hcut]

/-- Whether text ends with a slash does not depend on what comes before its last character. -/
lemma slash_suffix_cons_cons (c d : Char) (cs : List Char) :
    ['/'] <:+ c :: d :: cs ↔ ['/'] <:+ d :: cs := by
  simp [List.suffix_cons_iff (a := c)]

/-! ### The outline of a text, character by character -/

/-- One character is its own outline, and a slash stands at both ends. -/
lemma outline_singleton (c : Char) : outline [c] = cut [c] := by
  by_cases hc : c = '/'
  · simp [hc, outline, filledSegments, cut]
  · simp [outline, filledSegments, cut, List.suffix_cons_iff, hc, Ne.symm hc]

/-- A second slash does not show. -/
lemma outline_slash_slash (cs : List Char) : outline ('/' :: '/' :: cs) = outline ('/' :: cs) := by
  simp [outline, slash_suffix_cons_cons]

/-- A slash in front of another character is an empty segment. -/
lemma outline_slash_cons (hd : d ≠ '/') (cs : List Char) :
    outline ('/' :: d :: cs) = [] :: outline (d :: cs) := by
  simp [outline, slash_suffix_cons_cons, Ne.symm hd]

/-- Any other character goes to the first segment. -/
lemma outline_cons (hc : c ≠ '/') (h : outline (d :: cs) = w :: ws) :
    outline (c :: d :: cs) = (c :: w) :: ws := by
  by_cases hd : d = '/'
  · -- the slash ends a segment of this one character
    subst hd
    have hfirst : outline ('/' :: cs)
        = [] :: (filledSegments cs ++ if ['/'] <:+ '/' :: cs then [[]] else []) := by
      simp [outline]
    obtain ⟨rfl, rfl⟩ := List.cons.inj (h.symm.trans hfirst)
    have hfilled : filledSegments (c :: '/' :: cs) = [c] :: filledSegments cs :=
      filledSegments_cons hc (cut_slash_cons cs)
    simp [outline, slash_suffix_cons_cons, hfilled, Ne.symm hc]
  · obtain ⟨v, vs, hcut⟩ := List.exists_cons_of_ne_nil (cut_ne_nil cs)
    have hfirst : outline (d :: cs)
        = (d :: v) :: (vs.filter (· ≠ []) ++ if ['/'] <:+ d :: cs then [[]] else []) := by
      simp [outline, filledSegments_cons hd hcut, Ne.symm hd]
    obtain ⟨rfl, rfl⟩ := List.cons.inj (h.symm.trans hfirst)
    simp [outline, slash_suffix_cons_cons, filledSegments_cons hc (cut_cons hd hcut), Ne.symm hc]

end

/-- **Segment by segment**: collapsed text is cut to the outline of the text. -/
theorem cut_collapse {cs : List Char} (hne : cs ≠ []) : cut (collapse cs) = outline cs := by
  fun_induction collapse cs with
  | case1 => exact absurd rfl hne
  | case2 c => exact (outline_singleton c).symm
  | case3 c d cs h ih =>
    obtain ⟨rfl, rfl⟩ : c = '/' ∧ d = '/' := by simpa using h
    rw [ih (by simp), outline_slash_slash]
  | case4 c d cs h ih =>
    have ih := ih (by simp)
    by_cases hc : c = '/'
    · subst hc
      have hd : d ≠ '/' := by simpa using h
      rw [cut_slash_cons, ih, outline_slash_cons hd]
    · obtain ⟨w, ws, hcut⟩ := List.exists_cons_of_ne_nil (cut_ne_nil (collapse (d :: cs)))
      rw [cut_cons hc hcut, outline_cons hc (ih.symm.trans hcut)]

/-! ### The characters one by one -/

/-- Puts a character in front of collapsed text. -/
def prepend (c : Char) (cs : List Char) : List Char :=
  if c = '/' ∧ ['/'] <+: cs then cs else c :: cs

/-- A slash that is put in front opens the text, whether it is added or not. -/
lemma slash_prefix_prepend (cs : List Char) : ['/'] <+: prepend '/' cs := by
  unfold prepend
  split
  · next h => exact h.2
  · simp

/-- A slash that is there already is not put in front again. -/
lemma prepend_slash {cs : List Char} (h : ['/'] <+: cs) : prepend '/' cs = cs :=
  if_pos ⟨rfl, h⟩

/-- No two slashes in a row come up when a character is put in front. -/
lemma single_prepend {cs : List Char} (h : ¬ ['/', '/'] <:+: cs) (c : Char) :
    ¬ ['/', '/'] <:+: prepend c cs := by
  unfold prepend
  split
  · exact h
  · next hc =>
    rw [List.infix_cons_iff]
    rintro (hfront | hinfix)
    · obtain ⟨rfl, hopens⟩ := List.cons_prefix_cons.mp hfront
      exact hc ⟨rfl, hopens⟩
    · exact h hinfix

/-- A slash that opens the text stays. -/
lemma slash_prefix_collapse (cs : List Char) : ['/'] <+: collapse cs ↔ ['/'] <+: cs := by
  fun_induction collapse cs with
  | case1 => rfl
  | case2 c => rfl
  | case3 c d cs h ih =>
    obtain ⟨rfl, rfl⟩ : c = '/' ∧ d = '/' := by simpa using h
    simpa using ih
  | case4 c d cs h ih => simp

/-- **Character by character**: text is collapsed from its end on. -/
lemma collapse_cons (c : Char) (cs : List Char) : collapse (c :: cs) = prepend c (collapse cs) := by
  cases cs with
  | nil => simp [collapse, prepend]
  | cons d cs =>
    have hopens : ['/'] <+: collapse (d :: cs) ↔ d = '/' := by
      rw [slash_prefix_collapse]
      simp [eq_comm]
    simp [collapse, prepend, hopens]

/-! ### What is kept -/

section

variable {cs : List Char}

/-- Nothing but the empty text collapses to nothing. -/
lemma collapse_ne_nil (c : Char) (cs : List Char) : collapse (c :: cs) ≠ [] := by
  induction cs generalizing c with
  | nil => simp [collapse]
  | cons d cs ih =>
    rw [collapse]
    split
    · exact ih d
    · simp

/-- A slash that ends the text stays. -/
lemma slash_suffix_collapse (cs : List Char) : ['/'] <:+ collapse cs ↔ ['/'] <:+ cs := by
  fun_induction collapse cs with
  | case1 => rfl
  | case2 c => rfl
  | case3 c d cs h ih => rw [ih, slash_suffix_cons_cons]
  | case4 c d cs h ih =>
    obtain ⟨e, es, hcs⟩ := List.exists_cons_of_ne_nil (collapse_ne_nil d cs)
    rw [slash_suffix_cons_cons, ← ih, hcs, slash_suffix_cons_cons]

/-- No two slashes are left in a row. -/
lemma single_collapse (cs : List Char) : ¬ ['/', '/'] <:+: collapse cs := by
  induction cs with
  | nil => simp [collapse]
  | cons c cs ih =>
    rw [collapse_cons]
    exact single_prepend ih c

/-- The filled segments of a text are those of its outline. -/
lemma filter_outline (cs : List Char) : (outline cs).filter (· ≠ []) = filledSegments cs := by
  rw [outline, filledSegments]
  split <;> split <;> simp

/-- The filled segments stay. -/
lemma filledSegments_collapse (cs : List Char) :
    filledSegments (collapse cs) = filledSegments cs := by
  cases cs with
  | nil => rfl
  | cons c cs => rw [filledSegments, cut_collapse (by simp), filter_outline]

/-! ### One collapsed form -/

/-- Text without two slashes in a row stays as it is. -/
lemma collapse_of_single (h : ¬ ['/', '/'] <:+: cs) : collapse cs = cs := by
  induction cs with
  | nil => rfl
  | cons c cs ih =>
    have hslash : ¬ (c = '/' ∧ ['/'] <+: cs) := by
      rintro ⟨rfl, rest, rfl⟩
      exact h ⟨[], rest, rfl⟩
    rw [collapse_cons, ih fun hinfix => h (List.infix_cons hinfix), prepend, if_neg hslash]

/-- The outline depends on the filled segments and the ends only. -/
lemma outline_congr {as bs : List Char} (hsegments : filledSegments as = filledSegments bs)
    (hstarts : ['/'] <+: as ↔ ['/'] <+: bs) (hends : ['/'] <:+ as ↔ ['/'] <:+ bs) :
    outline as = outline bs := by
  simp only [outline, hsegments, hstarts, hends]

/-- Collapsed text is its outline glued together. -/
lemma collapse_eq_glue (cs : List Char) : collapse cs = glue (outline cs) := by
  cases cs with
  | nil => rfl
  | cons c cs => rw [← cut_collapse (by simp), glue_cut]

end

/-- Collapsing is idempotent. -/
lemma collapse_collapse (cs : List Char) : collapse (collapse cs) = collapse cs :=
  collapse_of_single (single_collapse cs)

/-- **Uniqueness**: collapsed text is the only one with the segments and the ends of the text that
has no two slashes in a row. -/
theorem collapseSlashes_eq_iff {s t : String} : t = collapseSlashes s ↔ Collapsed s t := by
  constructor
  · rintro rfl
    refine ⟨?_, ?_, ?_, ?_⟩ <;> rw [collapseSlashes, String.toList_ofList]
    · exact single_collapse _
    · exact filledSegments_collapse _
    · exact slash_prefix_collapse _
    · exact slash_suffix_collapse _
  · intro h
    have htext : t.toList = collapse s.toList :=
      calc t.toList = collapse t.toList := (collapse_of_single h.single).symm
        _ = glue (outline t.toList) := collapse_eq_glue _
        _ = glue (outline s.toList) := by
          rw [outline_congr h.segments_eq h.starts_iff h.ends_iff]
        _ = collapse s.toList := (collapse_eq_glue _).symm
    rw [collapseSlashes, ← htext, String.ofList_toList]

/-! ### Texts put together -/

/-- Text in front of other text is put in front of what that collapses to. -/
lemma collapse_append (as bs : List Char) :
    collapse (as ++ bs) = as.foldr prepend (collapse bs) := by
  induction as with
  | nil => rfl
  | cons a as ih => rw [List.cons_append, collapse_cons, ih, List.foldr_cons]

/-- It makes no difference whether text is collapsed before it is put in front. -/
lemma foldr_prepend_collapse (as cs : List Char) :
    (collapse as).foldr prepend cs = as.foldr prepend cs := by
  induction as with
  | nil => rfl
  | cons a as ih =>
    rw [collapse_cons, List.foldr_cons, ← ih]
    by_cases h : a = '/' ∧ ['/'] <+: collapse as
    · -- the slash that is left out here is left out there too, as another one opens the rest
      obtain ⟨rfl, hopens⟩ := h
      rw [prepend_slash hopens]
      obtain ⟨rest, hrest⟩ := hopens
      rw [← hrest, List.singleton_append, List.foldr_cons,
        prepend_slash (slash_prefix_prepend _)]
    · rw [prepend, if_neg h, List.foldr_cons]

/-- **Texts put together** collapse to what their collapsed forms, put together, collapse to. -/
lemma collapseSlashes_append (a b : String) :
    collapseSlashes (a ++ b) = collapseSlashes (collapseSlashes a ++ collapseSlashes b) := by
  simp only [collapseSlashes, String.toList_append, String.toList_ofList]
  rw [collapse_append, collapse_append, foldr_prepend_collapse, collapse_collapse]

-- a run that reaches from one text into the other
example : collapseSlashes ("a//b/" ++ "//c") = "a/b/c" := by decide

/-! ### Slashes where two texts meet -/

section

variable (as bs : List Char)

/-- One slash more between two texts does not show. -/
lemma collapse_append_slash_slash :
    collapse (as ++ '/' :: '/' :: bs) = collapse (as ++ '/' :: bs) := by
  rw [collapse_append, collapse_append, collapse, if_pos (by simp)]

/-- Slashes at the end of the first text do not show. -/
lemma collapse_rdropWhile_append_slash :
    collapse (as.rdropWhile (· = '/') ++ '/' :: bs) = collapse (as ++ '/' :: bs) := by
  induction as using List.reverseRecOn with
  | nil => rfl
  | append_singleton as a ih =>
    by_cases ha : a = '/'
    · subst ha
      rw [List.rdropWhile_concat_pos _ _ _ (by simp), ih, List.append_assoc,
        List.singleton_append, collapse_append_slash_slash]
    · rw [List.rdropWhile_concat_neg _ _ _ (by simpa using ha)]

/-- Slashes at the start of the second text do not show. -/
lemma collapse_append_slash_dropWhile :
    collapse (as ++ '/' :: bs.dropWhile (· = '/')) = collapse (as ++ '/' :: bs) := by
  induction bs with
  | nil => rfl
  | cons b bs ih =>
    by_cases hb : b = '/'
    · subst hb
      rw [List.dropWhile_cons_of_pos (by simp), ih, collapse_append_slash_slash]
    · rw [List.dropWhile_cons_of_neg (by simpa using hb)]

end

end PageConfig.Path
