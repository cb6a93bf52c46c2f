import PageConfig.Proofs.Path.Reference
import PageConfig.Proofs.Resolve.Agreement

/-!
# What a reference stands for

A page names a component by the path of its file, without the extension.  When
the reference is looked up again, the extension has to be found again, and other
files can come first: the path itself, and the path with an ending that is tried
before that of the file.  These are the *rivals* of the file.

So a reference stands for the file that it was written for only if the file is
the first of the candidates of its own path without extension
(`find?_candidates_iff`): if it has no extension, or one that is tried and no
rival.
-/

namespace PageConfig

namespace Path

variable {p start goal : Path}

/-- Where a reference leads to: to the path of its target without the extension, unless the target
is the directory itself or above it. -/
def referred (start goal : Path) : Path :=
  if goal.settled <+: start.settled then goal.normalize
  else goal.normalize.withoutExtension.normalize

/-- Seen from the directory, a reference leads there. -/
lemma SameBase.normalize_join (h : SameBase start goal) :
    (start.join ⟨moduleReference start goal⟩).normalize = referred start goal := by
  unfold referred
  split
  · rename_i habove
    exact normalize_eq_of_settled (h.settled_join_of_prefix habove)
  · rename_i hfile
    apply normalize_eq_of_settled
    rw [h.settled_join hfile, settled_withoutExtension]

/-- A normal form that is not a single dot is put together from its steps. -/
lemma normalize_eq_ofComponents (h : p.settled ≠ []) : p.normalize = ofComponents p.settled := by
  rw [normalize, settle_components]
  split
  · rename_i hnil
    exact absurd hnil h
  · rfl

/-- The last step of a path in normal form is its file name. -/
lemma exists_settled_of_fileName? (hp : p.normalize = p) {s : String} (h : p.fileName? = some s) :
    ∃ init, p.settled = init ++ [.name s] ∧ IsName s := by
  have hlast : p.settled.getLast? = some (.name s) := by
    rw [← steps_normalize, hp]
    apply getLast?_steps
    unfold fileName? at h
    split at h
    · rename_i n hn
      rw [hn, Option.some.inj h]
    · cases h
  obtain ⟨init, hinit⟩ := List.getLast?_eq_some_iff.mp hlast
  exact ⟨init, hinit, (spelled_settled p).isName (List.mem_of_getLast? hlast)⟩

/-- A path in normal form that has no extension stays as it is without it. -/
lemma normalize_withoutExtension_of_none (hp : p.normalize = p) (h : p.extension? = none) :
    p.withoutExtension.normalize = p := by
  cases hname : p.fileName? with
  | none => rw [withoutExtension, hname, hp]
  | some s =>
    obtain ⟨init, hinit, hs⟩ := exists_settled_of_fileName? hp hname
    have hbare : bareName s.toList = s.toList := by
      rw [extension?, hname, Option.bind_some, Option.map_eq_none_iff] at h
      unfold bareName
      split
      · rfl
      · rename_i stem ext hsplit
        rw [hsplit] at h
        cases h
    obtain ⟨c, hc, -, hsettled⟩ := bare_concat_name hs init
    obtain rfl : Component.name s = c := by
      rw [hbare, hs.segment] at hc
      exact Option.some.inj hc
    nth_rewrite 2 [← hp]
    apply normalize_eq_of_settled
    nth_rewrite 1 [← hp]
    rw [settled_withoutExtension, hinit, hsettled, ← hinit,
      settle_of_normalWalk (normalWalk_settled p)]

/-- A path is another one that ends with a name, with an extension behind it. -/
structure Extends (p q : Path) (ext : String) : Prop where
  name : ∃ (dir : Path) (stem : String), IsName stem ∧ q = dir.join ⟨stem⟩
  not_dot : '.' ∉ ext.toList
  eq_append : p = ⟨q.text ++ ("." ++ ext)⟩

/-- A path in normal form is the path without its extension, and the extension behind it, if a name
is left without it. -/
lemma extends_withoutExtension (hp : p.normalize = p) {ext : String}
    (h : p.extension? = some ext) (hstem : ∀ s, p.fileStem? = some s → IsName s) :
    Extends p p.withoutExtension.normalize ext := by
  obtain ⟨s, hname, hext⟩ := Option.bind_eq_some_iff.mp h
  obtain ⟨w, hw, rfl⟩ := Option.map_eq_some_iff.mp hext
  obtain ⟨init, hinit, hs⟩ := exists_settled_of_fileName? hp hname
  set stem := String.ofList (splitName s.toList).1 with hstemEq
  have hsplit : splitName s.toList = (stem.toList, some w) := by
    rw [hstemEq, String.toList_ofList, ← hw]
  obtain ⟨-, htext, hdot⟩ := splitName_eq_some hsplit
  have hisName : IsName stem := hstem stem (by rw [fileStem?, hname, Option.map_some])
  have hbare : bareName s.toList = stem.toList := by
    rw [bareName, hsplit]
    have hne : stem.toList ≠ ['.'] := by
      intro hdots
      have hsegment := hisName.segment
      rw [hdots] at hsegment
      cases hsegment
    simp only [hne, if_false]
  obtain ⟨c, hc, -, hsettled⟩ := bare_concat_name hs init
  obtain rfl : Component.name stem = c := by
    rw [hbare, hisName.segment] at hc
    exact Option.some.inj hc
  have hwalk : NormalWalk (init ++ [Component.name stem]).reverse := by
    have hnormal := normalWalk_settled p
    rw [hinit, List.reverse_append] at hnormal
    rw [List.reverse_append]
    exact .name stem hnormal.of_append
  have hwithout : p.withoutExtension.settled = init ++ [.name stem] := by
    nth_rewrite 1 [← hp]
    rw [settled_withoutExtension, hinit, hsettled, settle_of_normalWalk hwalk]
  have hjoin : p.withoutExtension.normalize = (ofComponents init).join ⟨stem⟩ := by
    rw [normalize_eq_ofComponents (by simp [hwithout]), hwithout, ofComponents_concat,
      Component.text]
  refine ⟨⟨ofComponents init, stem, hisName, hjoin⟩, by rwa [String.toList_ofList], ?_⟩
  rw [hjoin, join_append hisName.ne_nil hisName.head?]
  have hcut : s = stem ++ ("." ++ String.ofList w) := by
    rw [← String.toList_inj, htext]
    simp
  nth_rewrite 1 [← hp]
  rw [normalize_eq_ofComponents (by simp [hinit]), hinit, ofComponents_concat, Component.text, hcut]

end Path

namespace Resolve

open PageConfig.Json (Value)
open PageConfig.Path (referred moduleReference SameBase IsName)

variable {f : Files} {l : Lookup} {platform : Option String} {pageDir file goal : Path}

/-! ### The first file of the candidates -/

/-- An element that passes is found if it is there and nothing before it passes. -/
lemma find?_eq_some_iff_takeWhile {α : Type} [DecidableEq α] {test : α → Bool} {a : α}
    (ha : test a = true) (as : List α) :
    as.find? test = some a ↔ a ∈ as ∧ ∀ b ∈ as.takeWhile (· ≠ a), test b = false := by
  induction as with
  | nil => simp
  | cons b as ih =>
    by_cases hb : b = a
    · subst hb
      simp [ha]
    · by_cases htest : test b = true
      · simp [hb, htest]
      · simp [hb, htest, ih, Ne.symm hb]

/-- What comes before an element does not depend on what follows. -/
lemma takeWhile_append_of_mem {α : Type} [DecidableEq α] {a : α} {as : List α} (h : a ∈ as)
    (bs : List α) : (as ++ bs).takeWhile (· ≠ a) = as.takeWhile (· ≠ a) := by
  induction as with
  | nil => cases h
  | cons b as ih =>
    by_cases hb : b = a
    · simp [hb]
    · have hmem : a ∈ as := (List.mem_cons.mp h).resolve_left (Ne.symm hb)
      simpa [hb] using ih hmem

/-- The only ending without a second dot is an extension. -/
lemma dot_append_mem_endings (platform : Option String) {ext : String} (hdot : '.' ∉ ext.toList) :
    "." ++ ext ∈ endings platform ↔ "." ++ ext ∈ extensions := by
  have hextensions : ∀ e ∈ extensions, '.' ∈ e.toList := by decide
  constructor
  · intro hmem
    obtain ⟨e, he, hmem⟩ := List.mem_flatMap.mp hmem
    cases platform with
    | none => rwa [List.mem_singleton.mp hmem]
    | some name =>
      rcases List.mem_cons.mp hmem with heq | hmem
      · have htext : ext.toList = name.toList ++ e.toList := by
          simpa using congrArg String.toList heq
        exact absurd (by simp [htext, hextensions e he]) hdot
      · rwa [List.mem_singleton.mp hmem]
  · intro hmem
    refine List.mem_flatMap.mpr ⟨_, hmem, ?_⟩
    cases platform with
    | none => exact List.mem_singleton_self _
    | some name => simp

/-- The files that are tried before a file with the extension, at its path without it: the path
itself, and the path with an earlier ending. -/
def rivals (platform : Option String) (logical : Path) (ext : String) : List Path :=
  logical :: ((endings platform).takeWhile (· ≠ "." ++ ext)).map fun e => ⟨logical.text ++ e⟩

section

variable {logical : Path} {ext : String} (h : Path.Extends goal logical ext)
include h

/-- Only one ending makes the path the one with the extension. -/
lemma append_eq_iff (e : String) : (⟨logical.text ++ e⟩ : Path) = goal ↔ e = "." ++ ext := by
  rw [h.eq_append, Path.mk.injEq, String.append_right_inj]

/-- An index file below the path is another file: a slash follows the path there, and a dot here. -/
lemma join_index_ne (e : String) : logical.join ⟨"index" ++ e⟩ ≠ goal := by
  intro heq
  obtain ⟨dir, stem, hstem, hlogical⟩ := h.name
  obtain ⟨front, htext⟩ : ∃ front, logical.text.toList = front ++ stem.toList :=
    ⟨_, by rw [hlogical]; exact Path.toList_join hstem.head?⟩
  have hlast : logical.text.toList.getLast? ≠ some '/' := by
    rw [htext, List.getLast?_append_of_ne_nil _ hstem.ne_nil]
    exact fun hslash => hstem.not_slash (List.mem_of_getLast? hslash)
  have hne : logical.text.toList ≠ [] := by
    rw [htext]
    simp [hstem.ne_nil]
  have hjoin := congrArg (fun p => p.text.toList) (heq.trans h.eq_append)
  simp only [Path.toList_join (q := ⟨"index" ++ e⟩) (by simp), hne, hlast, or_self, if_false,
    String.toList_append, List.append_assoc, List.append_cancel_left_eq] at hjoin
  cases hjoin

/-- The path itself is another file. -/
lemma logical_ne : logical ≠ goal := by
  intro heq
  have htext := congrArg (fun p => p.text.toList.length) (heq.trans h.eq_append)
  simp at htext

/-- The file is a candidate of the path if its extension is tried. -/
lemma mem_candidates_iff : goal ∈ candidates platform logical ↔ "." ++ ext ∈ extensions := by
  rw [← dot_append_mem_endings platform h.not_dot, candidates, List.cons_append, List.mem_cons,
    List.mem_append, List.mem_map, List.mem_map]
  constructor
  · rintro (heq | ⟨e, he, heq⟩ | ⟨e, -, heq⟩)
    · exact absurd heq.symm (logical_ne h)
    · rwa [← (append_eq_iff h e).mp heq]
    · exact absurd heq (join_index_ne h e)
  · exact fun he => Or.inr (Or.inl ⟨_, he, h.eq_append.symm⟩)

/-- The candidates before the file are its rivals. -/
lemma takeWhile_candidates (hext : "." ++ ext ∈ extensions) :
    (candidates platform logical).takeWhile (· ≠ goal) = rivals platform logical ext := by
  have hfound : goal ∈ (endings platform).map fun e => (⟨logical.text ++ e⟩ : Path) :=
    List.mem_map.mpr ⟨_, (dot_append_mem_endings platform h.not_dot).mpr hext, h.eq_append.symm⟩
  have hmap : (fun p : Path => decide (p ≠ goal)) ∘ (fun e => ⟨logical.text ++ e⟩)
      = fun e => decide (e ≠ "." ++ ext) := by
    funext e
    simp [append_eq_iff h e]
  rw [candidates, List.cons_append, List.takeWhile_cons_of_pos (by simpa using logical_ne h),
    takeWhile_append_of_mem hfound, List.takeWhile_map, hmap, rivals]

/-- At the path without its extension, the file is found if the extension is tried and no rival is
a file. -/
lemma find?_candidates_iff (hfile : f.isFile goal = true) :
    (candidates platform logical).find? f.isFile = some goal ↔
      "." ++ ext ∈ extensions ∧ ∀ p ∈ rivals platform logical ext, f.isFile p = false := by
  rw [find?_eq_some_iff_takeWhile hfile, mem_candidates_iff h]
  refine and_congr_right fun hext => ?_
  rw [takeWhile_candidates h hext]

end

/-- What is above a candidate that starts at the root starts there. -/
lemma rooted_of_candidate (hplatform : ∀ name ∈ platform, '/' ∉ name.toList) {logical p : Path}
    (hmem : p ∈ candidates platform logical) (hp : p.Rooted) : logical.Rooted := by
  obtain ⟨cs, hcs⟩ := hp.exists_text
  -- no slash opens what is put behind the path, so that the path itself starts with one
  have hfront : ∀ back : List Char, '/' ∉ back → ∀ front : List Char,
      (∃ between, p.text.toList = front ++ between ++ back ∧ (front = [] → between = [])) →
      ∃ rest, front = '/' :: rest := by
    rintro back hback front ⟨between, htext, hbetween⟩
    cases front with
    | nil =>
      rw [hbetween rfl, List.nil_append, List.nil_append, hcs] at htext
      exact absurd (by simp [← htext]) hback
    | cons c rest =>
      rw [hcs, List.cons_append, List.cons_append, List.cons.injEq] at htext
      exact ⟨rest, by rw [htext.1]⟩
  obtain rfl | ⟨e, hslash, -, rfl⟩ | ⟨n, hn, rfl⟩ := candidate_cases hplatform hmem
  · exact hp
  · obtain ⟨rest, hrest⟩ := hfront e.toList hslash logical.text.toList ⟨[], by simp, by simp⟩
    exact Path.rooted_of_text hrest
  · obtain ⟨rest, hrest⟩ := hfront n.toList hn.not_slash logical.text.toList
      ⟨_, Path.toList_join hn.head?, fun hnil => by simp [hnil]⟩
    exact Path.rooted_of_text hrest

/-- A file that a module path stands for is in normal form, if it starts at the root. -/
lemma normalize_of_script (hplatform : ∀ name ∈ platform, '/' ∉ name.toList) {logical : Path}
    (h : f.script platform logical = some goal) (hgoal : goal.isAbsolute = true) :
    goal.normalize = goal := by
  rw [Files.script_eq] at h
  have hmem := List.mem_of_find?_eq_some h
  have hrooted := rooted_of_candidate hplatform hmem (Path.rooted_of_isAbsolute hgoal)
  have hplain : logical.normalize.Plain := by
    have hnormal := hrooted.plain_normalize
    rwa [Path.normalize_normalize] at hnormal
  exact (plain_of_mem_candidates hplatform hplain hmem).normalize_eq

/-! ### References -/

/-- A file is found again at its path without extension: it has none, or one that is tried, and no
file is tried before it. -/
def FoundAgain (f : Files) (platform : Option String) (goal : Path) : Prop :=
  ∀ ext, goal.extension? = some ext → "." ++ ext ∈ extensions ∧
    ∀ p ∈ rivals platform goal.withoutExtension.normalize ext, f.isFile p = false

/-- A file in normal form is the first of the candidates of where a reference leads to, if it is
found again. -/
lemma find?_referred_iff (hnormal : goal.normalize = goal)
    (hstem : ∀ s, goal.fileStem? = some s → IsName s) (hfile : f.isFile goal = true) :
    (candidates platform (referred pageDir goal)).find? f.isFile = some goal ↔
      goal.settled <+: pageDir.settled ∨ FoundAgain f platform goal := by
  have hfirst : (candidates platform goal).find? f.isFile = some goal := by
    rw [candidates, List.cons_append, List.find?_cons_of_pos hfile]
  by_cases habove : goal.settled <+: pageDir.settled
  · rw [referred, if_pos habove, hnormal, hfirst]
    simp [habove]
  · rw [referred, if_neg habove, hnormal]
    cases hext : goal.extension? with
    | none =>
      rw [Path.normalize_withoutExtension_of_none hnormal hext, hfirst]
      simp [FoundAgain, hext]
    | some ext =>
      rw [find?_candidates_iff (Path.extends_withoutExtension hnormal hext hstem) hfile]
      simp [FoundAgain, hext, habove]

/-- **What the reference of a component stands for.**  A component that a file declares with a
relative specifier is written for a page by its reference.  Seen from the page, the reference leads
to the path of the component without its extension, and stands for the component if and only if that
is the first of the candidates there which is a file.

A component that starts at the root has a path in normal form, if the platform has no slash in it.
For such a path, unless nothing but dots are left without the extension, this is to say that no file
is tried before: the component has no extension, or it has one of those that are tried and no rival
is a file. -/
theorem script_reference_iff {specifier : String}
    (hspecifier : Path.isRelativeSpecifier specifier = true)
    (hgoal : goalOf f l file specifier = some goal) (hbase : SameBase pageDir goal) :
    referenceOf f l pageDir file (.string specifier) = some (moduleReference pageDir goal) ∧
      (f.script l.platform (pageDir.join ⟨moduleReference pageDir goal⟩) = some goal ↔
        goal ∈ candidates l.platform (referred pageDir goal) ∧
          ∀ p ∈ (candidates l.platform (referred pageDir goal)).takeWhile (· ≠ goal),
            f.isFile p = false) ∧
      ((∀ name ∈ l.platform, '/' ∉ name.toList) → goal.isAbsolute = true →
        goal.normalize = goal) ∧
      (goal.normalize = goal → (∀ s, goal.fileStem? = some s → IsName s) →
        (f.script l.platform (pageDir.join ⟨moduleReference pageDir goal⟩) = some goal ↔
          goal.settled <+: pageDir.settled ∨ FoundAgain f l.platform goal)) := by
  have hfile : f.isFile goal = true := Files.isFile_of_script hgoal
  have hscript : f.script l.platform (pageDir.join ⟨moduleReference pageDir goal⟩)
      = (candidates l.platform (referred pageDir goal)).find? f.isFile := by
    rw [Files.script_eq, hbase.normalize_join]
  rw [hscript]
  refine ⟨?_, find?_eq_some_iff_takeWhile hfile _, ?_, ?_⟩
  · simp [referenceOf, Value.string?, hspecifier, hgoal]
  · exact fun hplatform habsolute => normalize_of_script hplatform hgoal habsolute
  · exact fun hnormal hstem => find?_referred_iff hnormal hstem hfile

/-- A component with an index file below a directory of the same name, which is tried later. -/
def uncrowded : Files :=
  .ofTexts [(⟨"/src/foo.tsx"⟩, ""), (⟨"/src/foo/index.js"⟩, "")]

/-- No rival of the component is a file, and its reference stands for it. -/
theorem script_reference_uncrowded :
    Path.isRelativeSpecifier "../foo" = true ∧
      goalOf uncrowded ⟨some "h5", ⟨"/"⟩⟩ ⟨"/src/c/c.js"⟩ "../foo" = some ⟨"/src/foo.tsx"⟩ ∧
      SameBase ⟨"/src/p"⟩ ⟨"/src/foo.tsx"⟩ ∧
      uncrowded.script (some "h5") ((⟨"/src/p"⟩ : Path).join
        ⟨moduleReference ⟨"/src/p"⟩ ⟨"/src/foo.tsx"⟩⟩) = some ⟨"/src/foo.tsx"⟩ := by
  have hspecifier : Path.isRelativeSpecifier "../foo" = true := by
    have hup : "../foo".startsWith "../" = true := by
      rw [String.startsWith_string_iff]
      decide
    rw [Path.isRelativeSpecifier, hup, Bool.or_true]
  have hgoal : goalOf uncrowded ⟨some "h5", ⟨"/"⟩⟩ ⟨"/src/c/c.js"⟩ "../foo"
      = some ⟨"/src/foo.tsx"⟩ := by decide
  have hbase : SameBase ⟨"/src/p"⟩ ⟨"/src/foo.tsx"⟩ := .of_isAbsolute (by decide) (by decide)
  have hextension : (⟨"/src/foo.tsx"⟩ : Path).extension? = some "tsx" := by decide
  have hstem : (⟨"/src/foo.tsx"⟩ : Path).fileStem? = some "foo" := by decide
  have hagain : FoundAgain uncrowded (some "h5") ⟨"/src/foo.tsx"⟩ := by
    intro ext hext
    obtain rfl : "tsx" = ext := Option.some.inj (hextension.symm.trans hext)
    decide
  obtain ⟨-, -, hnormal, hiff⟩ := script_reference_iff hspecifier hgoal hbase
  refine ⟨hspecifier, hgoal, hbase, (hiff (hnormal ?_ ?_) ?_).mpr (Or.inr hagain)⟩
  · decide
  · decide
  · intro s hs
    obtain rfl : "foo" = s := Option.some.inj (hstem.symm.trans hs)
    exact ⟨by decide, rfl⟩

/-- Two components with one path without extension. -/
def crowded : Files := .ofTexts [(⟨"/src/foo.tsx"⟩, ""), (⟨"/src/foo.js"⟩, "")]

/-- The reference of the one that is tried later stands for the other one. -/
theorem script_reference_crowded :
    Path.isRelativeSpecifier "./foo.tsx" = true ∧
      goalOf crowded ⟨none, ⟨"/"⟩⟩ ⟨"/src/c.js"⟩ "./foo.tsx" = some ⟨"/src/foo.tsx"⟩ ∧
      crowded.script none ((⟨"/src"⟩ : Path).join
        ⟨moduleReference ⟨"/src"⟩ ⟨"/src/foo.tsx"⟩⟩) = some ⟨"/src/foo.js"⟩ := by
  have hspecifier : Path.isRelativeSpecifier "./foo.tsx" = true := by
    have hhere : "./foo.tsx".startsWith "./" = true := by
      rw [String.startsWith_string_iff]
      decide
    rw [Path.isRelativeSpecifier, hhere, Bool.or_true, Bool.true_or]
  refine ⟨hspecifier, by decide, ?_⟩
  have hbase : SameBase ⟨"/src"⟩ ⟨"/src/foo.tsx"⟩ := .of_isAbsolute (by decide) (by decide)
  rw [Files.script_eq, hbase.normalize_join]
  decide

end Resolve

end PageConfig
