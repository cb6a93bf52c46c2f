import PageConfig.Project.Context
import PageConfig.Proofs.Glob
import PageConfig.Proofs.Path.Display
import PageConfig.Proofs.Path.Settled

/-!
# Pages to leave alone

A pattern looks at the characters of a path, a directory is made of whole
names.  The two agree on the patterns for all that is in a directory, because a
name has no slash: a text of names that starts with the text of other names and
a slash starts with these names (`Named.prefix_text_iff`).  A path outside the
sources is shown from the root on, and starts with a slash, which no name does.
-/

namespace PageConfig

namespace Place

open PageConfig.Path (IsName glue)

variable {d names root : Place}

/-- The characters of a text of names, other than slashes. -/
lemma mem_text {c : Char} (hc : c ≠ '/') (names : Place) :
    c ∈ ("/".intercalate names).toList ↔ ∃ n ∈ names, c ∈ n.toList := by
  rw [toList_text, Path.mem_glue hc]
  simp

/-- A text of names starts with a character of the first name. -/
lemma Named.exists_text (h : names.Named) (hne : names ≠ []) :
    ∃ c cs, ("/".intercalate names).toList = c :: cs ∧ c ≠ '/' := by
  obtain ⟨n, names, rfl⟩ := List.exists_cons_of_ne_nil hne
  have hn : IsName n := h n List.mem_cons_self
  obtain ⟨c, cs, hcs⟩ := List.exists_cons_of_ne_nil hn.ne_nil
  have hc : c ≠ '/' := by
    rintro rfl
    exact hn.not_slash (by simp [hcs])
  cases names with
  | nil => exact ⟨c, cs, by rw [String.intercalate_singleton, hcs], hc⟩
  | cons m names =>
    refine ⟨c, cs ++ "/".toList ++ ("/".intercalate (m :: names)).toList, ?_, hc⟩
    rw [String.intercalate_cons_cons, String.toList_append, String.toList_append, hcs]
    rfl

/-- **Characters and names**: a text of names starts with the text of other names and a slash just
if its names start with these names, and go on. -/
theorem Named.prefix_text_iff (hd : d.Named) (hne : d ≠ []) (h : names.Named) :
    ("/".intercalate d).toList ++ ['/'] <+: ("/".intercalate names).toList
      ↔ ∃ more, more ≠ [] ∧ names = d ++ more := by
  constructor
  · rintro ⟨tail, htail⟩
    rw [List.append_assoc, List.singleton_append, toList_text, toList_text] at htail
    have hnames : names ≠ [] := by
      rintro rfl
      simp [glue] at htail
    -- both texts are cut at their slashes
    have hcut := congrArg Path.cut htail
    rw [Path.cut_append_slash, hd.cut_glue, h.cut_glue, if_neg hne, if_neg hnames] at hcut
    obtain ⟨first, more, rfl, hfirst, hmore⟩ := List.map_eq_append_iff.mp hcut.symm
    have hinj : Function.Injective String.toList := fun a b => String.toList_inj.mp
    obtain rfl : first = d := List.map_injective_iff.mpr hinj hfirst
    refine ⟨more, ?_, rfl⟩
    rintro rfl
    exact Path.cut_ne_nil tail hmore.symm
  · rintro ⟨more, hmore, rfl⟩
    refine ⟨("/".intercalate more).toList, ?_⟩
    rw [String.intercalate_append_of_ne_nil hne hmore, String.toList_append, String.toList_append]
    rfl

/-- What is shown of a place: the names that lead to it from the root, or all of its path. -/
lemma Named.display_path (h : names.Named) (hroot : root.Named)
    (hbackslash : '\\' ∉ names.path.text.toList) :
    Path.display root.path names.path
      = if root <+: names then "/".intercalate (names.drop root.length) else names.path.text := by
  have hrest : '\\' ∉ ("/".intercalate (names.drop root.length)).toList := by
    intro hmem
    obtain ⟨n, hn, hc⟩ := (mem_text (by decide) _).mp hmem
    apply hbackslash
    rw [toList_path, ← toList_text]
    exact List.mem_cons_of_mem _ ((mem_text (by decide) names).mpr ⟨n, List.mem_of_mem_drop hn, hc⟩)
  rw [Path.display_eq]
  · rw [h.below?_path hroot]
    split <;> rfl
  · rw [h.below?_path hroot]
    split
    · exact hrest
    · exact hbackslash

/-- The components of names seen from the path of a place. -/
lemma Named.components_join (hroot : root.Named) (hd : d.Named) (hne : d ≠ []) :
    (root.path.join ⟨"/".intercalate d⟩).components = .root :: (root ++ d).map .name := by
  have hrooted : root.path.Rooted := Path.rooted_of_text (toList_path root)
  have hhead : (⟨"/".intercalate d⟩ : Path).text.toList.head? ≠ some '/' := by
    obtain ⟨c, cs, hcs, hc⟩ := hd.exists_text hne
    simp [hcs, hc]
  have hsteps : (⟨"/".intercalate d⟩ : Path).steps = d.map .name := by
    rw [Path.steps_eq, Path.stepsOf_of_head? hhead, toList_text, hd.cut_glue, if_neg hne]
    exact hd.filterMap_segment?
  rw [(hrooted.join _).components_eq, Path.steps_join hhead, hroot.steps_path, hsteps,
    List.map_append, List.cons_append]

/-- What lies below a directory of a place, in names. -/
lemma Named.liesBelow_iff (h : names.Named) (hroot : root.Named) (hd : d.Named) (hne : d ≠ []) :
    (root.path.join ⟨"/".intercalate d⟩).LiesBelow names.path
      ↔ ∃ more, more ≠ [] ∧ names = root ++ d ++ more := by
  have hinj : Function.Injective Path.Component.name := fun a b hab => Path.Component.name.inj hab
  rw [Path.LiesBelow, h.components_path, hroot.components_join hd hne]
  apply exists_congr
  intro more
  rw [List.cons_append, ← List.map_append, List.cons.injEq,
    (List.map_injective_iff.mpr hinj).eq_iff]
  simp

/-- **One pattern**: the pattern for all that is in a directory matches what is shown of a place
just if the place lies below the directory. -/
theorem Named.isMatch_iff_liesBelow (h : names.Named) (hroot : root.Named) (hd : d.Named)
    (hne : d ≠ []) (hbackslash : '\\' ∉ names.path.text.toList) :
    (Glob.insideOf ("/".intercalate d)).isMatch (Path.display root.path names.path) = true
      ↔ (root.path.join ⟨"/".intercalate d⟩).LiesBelow names.path := by
  rw [Glob.isMatch_insideOf, h.display_path hroot hbackslash, h.liesBelow_iff hroot hd hne]
  split
  · rename_i hprefix
    obtain ⟨rest, rfl⟩ := hprefix
    have hrest : Named rest := fun n hn => h n (List.mem_append_right root hn)
    simp only [List.drop_left, hd.prefix_text_iff hne hrest, List.append_assoc,
      List.append_cancel_left_eq]
  · rename_i hprefix
    constructor
    · -- outside the root a slash stands first
      rintro ⟨tail, htail⟩
      obtain ⟨c, cs, hcs, hc⟩ := hd.exists_text hne
      rw [hcs, toList_path] at htail
      exact absurd (List.cons.inj htail).1 hc
    · rintro ⟨more, -, rfl⟩
      exact absurd ⟨d ++ more, by simp⟩ hprefix

end Place

namespace Project

/-- The names of a directory below the sources that a pattern can spell. -/
structure Spellable (d : Place) : Prop where
  ne_nil : d ≠ []
  named : d.Named
  verbatim : ∀ n ∈ d, Glob.Verbatim n.toList

instance (d : Place) : Decidable (Spellable d) :=
  decidable_of_iff (d ≠ [] ∧ d.Named ∧ ∀ n ∈ d, Glob.Verbatim n.toList)
    ⟨fun ⟨hne, hnamed, hverbatim⟩ => ⟨hne, hnamed, hverbatim⟩,
      fun h => ⟨h.ne_nil, h.named, h.verbatim⟩⟩

/-- The pattern for all that is in a directory. -/
def allIn (d : Place) : String := "/".intercalate d ++ "/**"

/-- The pattern of a directory is understood. -/
lemma Spellable.pattern_allIn {d : Place} (h : Spellable d) :
    Settings.pattern (allIn d) = .ok (Glob.insideOf ("/".intercalate d)) := by
  have hverbatim : Glob.Verbatim ("/".intercalate d).toList := by
    intro c hc
    by_cases hslash : c = '/'
    · subst hslash
      decide
    · obtain ⟨n, hn, hcn⟩ := (Place.mem_text hslash d).mp hc
      exact h.verbatim n hn c hcn
  rw [Settings.pattern, allIn, Glob.parse_insideOf hverbatim]
  rfl

/-- So are the patterns of directories, in order. -/
lemma patterns_eq {s : Settings} {folders : List Place} (h : ∀ d ∈ folders, Spellable d)
    (hs : s.ignores = folders.map allIn) :
    s.patterns = .ok (folders.map fun d => Glob.insideOf ("/".intercalate d)) := by
  rw [Settings.patterns, hs]
  clear hs
  induction folders with
  | nil => rfl
  | cons d folders ih =>
    rw [List.map_cons, List.mapM_cons, (h d List.mem_cons_self).pattern_allIn,
      ih fun e he => h e (List.mem_cons_of_mem d he)]
    rfl

/-- **Directories to leave alone.**  Where the patterns of the settings are those of directories
below the sources, the settings are understood, and a file is left alone just if it lies below one
of the directories, at whatever depth. -/
theorem isIgnored_iff_liesBelow {s : Settings} {appRoot root : Path} {folders : List Place}
    (target : Nat) (verbose : Bool) (hroot : (appRoot.join ⟨s.sourceRoot⟩).normalize = root)
    (habsolute : root.isAbsolute = true) (hfolders : ∀ d ∈ folders, Spellable d)
    (hignores : s.ignores = folders.map allIn) :
    ∃ c, Context.ofSettings s appRoot target verbose = .ok c ∧ c.sourceRoot = root ∧
      ∀ p : Path, p.isAbsolute = true → p.normalize = p → '\\' ∉ p.text.toList →
        (c.isIgnored p = true ↔ ∃ d ∈ folders, (root.join ⟨"/".intercalate d⟩).LiesBelow p) := by
  have hnormal : root.normalize = root := by rw [← hroot, Path.normalize_normalize]
  have hplain : ∀ q : Path, q.isAbsolute = true → q.normalize = q → q.Plain := by
    intro q habs hq
    rw [← hq]
    exact (Path.rooted_of_isAbsolute habs).plain_normalize
  obtain ⟨base, hbase, rfl⟩ := hplain root habsolute hnormal
  refine ⟨_, by rw [Context.ofSettings, patterns_eq hfolders hignores]; rfl, hroot, ?_⟩
  intro p habs hp hbackslash
  obtain ⟨names, hnames, rfl⟩ := hplain p habs hp
  simp only [Context.isIgnored, hroot, List.any_map, List.any_eq_true, Function.comp_apply]
  refine exists_congr fun d => and_congr_right fun hd => ?_
  exact hnames.isMatch_iff_liesBelow hbase (hfolders d hd).named (hfolders d hd).ne_nil hbackslash

/-- Two directories are left alone, and so is what is deep in one of them, but not a sibling whose
name goes on. -/
theorem isIgnored_iff_liesBelow_siblings :
    ∃ c, Context.ofSettings { Settings.default with ignores := ["pages/legacy/**", "x/**"] }
        ⟨"/app"⟩ 3 false = .ok c ∧
      c.isIgnored ⟨"/app/src/pages/legacy/old/index.tsx"⟩ = true ∧
      c.isIgnored ⟨"/app/src/pages/legacy2/index.tsx"⟩ = false := by
  obtain ⟨c, hc, -, h⟩ := @isIgnored_iff_liesBelow
    { Settings.default with ignores := ["pages/legacy/**", "x/**"] } ⟨"/app"⟩ ⟨"/app/src"⟩
    [["pages", "legacy"], ["x"]] 3 false (by decide) (by decide) (by decide) (by decide)
  refine ⟨c, hc, ?_, ?_⟩
  · rw [h _ (by decide) (by decide) (by decide)]
    exact ⟨["pages", "legacy"], by simp, ["old", "index.tsx"], by decide, by decide⟩
  · rw [← Bool.not_eq_true, h _ (by decide) (by decide) (by decide)]
    rintro ⟨d, hd, names, -, hnames⟩
    have hp : (⟨"/app/src/pages/legacy2/index.tsx"⟩ : Path).components
        = [.root, .name "app", .name "src", .name "pages", .name "legacy2", .name "index.tsx"] := by
      decide
    have hlegacy : ((⟨"/app/src"⟩ : Path).join ⟨"/".intercalate ["pages", "legacy"]⟩).components
        = [.root, .name "app", .name "src", .name "pages", .name "legacy"] := by decide
    have hx : ((⟨"/app/src"⟩ : Path).join ⟨"/".intercalate ["x"]⟩).components
        = [.root, .name "app", .name "src", .name "x"] := by decide
    rcases List.mem_pair.mp hd with rfl | rfl
    · rw [hp, hlegacy] at hnames
      simp at hnames
    · rw [hp, hx] at hnames
      simp at hnames

end Project

end PageConfig
