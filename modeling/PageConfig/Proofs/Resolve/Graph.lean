import Mathlib.Logic.Relation
import PageConfig.Proofs.Files
import PageConfig.Proofs.Path.Tidy
import PageConfig.Resolve.Component

/-!
# The usage graph

A file uses another when it can be scanned and has a component with a relative
specifier that stands for the other.  What a file uses does not depend on how
its path is spelled, so that the graph on paths can be followed in whatever
spelling a search meets a file.

Unless the platform has a slash in its name, a file is used under one spelling
only: what a specifier stands for has a tidy path (`Uses.tidy`).
-/

namespace PageConfig.Resolve

/-- The file that a relative specifier in a file stands for. -/
def goalOf (f : Files) (l : Lookup) (file : Path) (specifier : String) : Option Path :=
  f.script l.platform (file.parent.join ⟨specifier⟩)

/-- What a relative specifier stands for does not depend on how its file is spelled. -/
lemma goalOf_congr {f : Files} {l : Lookup} {p q : Path} {s : String} (h : p.same q = true)
    (hs : Path.isRelativeSpecifier s = true) : goalOf f l p s = goalOf f l q s := by
  have hhead : (⟨s⟩ : Path).text.toList.head? ≠ some '/' := by
    rw [Path.head?_of_isRelativeSpecifier hs]
    decide
  rw [goalOf, goalOf, Files.script_eq, Files.script_eq, Path.normalize_parent_join_congr h hhead]

/-- One file uses another: it can be scanned, and one of its components has a relative specifier
that stands for the other file. -/
def Uses (f : Files) (l : Lookup) (p q : Path) : Prop :=
  ∃ scan, f.scan p = .ok scan ∧
    ∃ u ∈ scan.usages, Path.isRelativeSpecifier u.specifier = true ∧
      goalOf f l p u.specifier = some q

/-- One file reaches another along usages. -/
abbrev Reaches (f : Files) (l : Lookup) : Path → Path → Prop := Relation.ReflTransGen (Uses f l)

variable {f : Files} {l : Lookup}

/-- What is used is a file. -/
lemma Uses.isFile {p q : Path} (h : Uses f l p q) : f.isFile q = true := by
  obtain ⟨scan, -, u, -, -, hgoal⟩ := h
  exact Files.isFile_of_script hgoal

/-- A file without a scan uses nothing. -/
lemma not_uses_of_error {p q : Path} {e : String} (hscan : f.scan p = .error e) :
    ¬ Uses f l p q := by
  rintro ⟨scan, hok, -⟩
  rw [hok] at hscan
  cases hscan

/-- What is used is found. -/
lemma Uses.found {p q : Path} (h : Uses f l p q) : f.Found q := Or.inl h.isFile

/-- What a file uses does not depend on how the file is spelled. -/
lemma Uses.congr {p q r : Path} (h : Uses f l p r) (hpq : p.same q = true) (hq : f.Found q) :
    Uses f l q r := by
  obtain ⟨scan, hscan, u, hu, hrel, hgoal⟩ := h
  have hp : f.Found p := Files.found_of_scan hscan
  refine ⟨scan, ?_, u, hu, hrel, ?_⟩
  · rw [← Files.scan_congr hpq hp hq, hscan]
  · rw [← goalOf_congr hpq hrel, hgoal]

/-- What is reached from a file that is found is found. -/
lemma Reaches.found {p q : Path} (h : Reaches f l p q) (hp : f.Found p) : f.Found q := by
  induction h with
  | refl => exact hp
  | tail _ hstep _ => exact hstep.found

/-! ### Spellings of what is used -/

/-- The endings of script files are texts of three or more characters without a slash, if the
platform has none. -/
lemma mem_endings {platform : Option String} (hplatform : ∀ name ∈ platform, '/' ∉ name.toList)
    {e : String} (he : e ∈ endings platform) : '/' ∉ e.toList ∧ 3 ≤ e.toList.length := by
  have hextensions : ∀ ext ∈ extensions, '/' ∉ ext.toList ∧ 3 ≤ ext.toList.length := by
    decide
  obtain ⟨ext, hext, hmem⟩ := List.mem_flatMap.mp he
  obtain ⟨hslash, hlength⟩ := hextensions ext hext
  cases platform with
  | none =>
    obtain rfl := List.mem_singleton.mp hmem
    exact ⟨hslash, hlength⟩
  | some name =>
    have hname : '/' ∉ name.toList := hplatform name rfl
    rcases List.mem_cons.mp hmem with rfl | hmem
    · constructor
      · simp [hname, hslash]
      · rw [String.toList_append, List.length_append]
        omega
    · obtain rfl := List.mem_singleton.mp hmem
      exact ⟨hslash, hlength⟩

/-- The files that can stand for a module, if the platform has no slash in it: the path itself, the
path with an ending behind it, and a name below it. -/
lemma candidate_cases {platform : Option String}
    (hplatform : ∀ name ∈ platform, '/' ∉ name.toList) {logical p : Path}
    (hp : p ∈ candidates platform logical) :
    p = logical ∨
      (∃ e : String, '/' ∉ e.toList ∧ 3 ≤ e.toList.length ∧ p = ⟨logical.text ++ e⟩) ∨
      ∃ n, Path.IsName n ∧ p = logical.join ⟨n⟩ := by
  rw [candidates, List.cons_append, List.mem_cons, List.mem_append] at hp
  rcases hp with hp | hp | hp
  · exact Or.inl hp
  · obtain ⟨e, he, rfl⟩ := List.mem_map.mp hp
    obtain ⟨hslash, hlength⟩ := mem_endings hplatform he
    exact Or.inr (Or.inl ⟨e, hslash, hlength, rfl⟩)
  · obtain ⟨e, he, rfl⟩ := List.mem_map.mp hp
    obtain ⟨hslash, hlength⟩ := mem_endings hplatform he
    refine Or.inr (Or.inr ⟨_, Path.isName_of_length ?_ ?_, rfl⟩)
    · simp [hslash]
    · rw [String.toList_append, List.length_append]
      omega

/-- The files that can stand for a module have tidy paths, if the platform has no slash in it. -/
lemma tidy_of_mem_candidates {platform : Option String}
    (hplatform : ∀ name ∈ platform, '/' ∉ name.toList) {logical p : Path} (hlogical : logical.Tidy)
    (hp : p ∈ candidates platform logical) : p.Tidy := by
  obtain rfl | ⟨e, hslash, hlength, rfl⟩ | ⟨n, hn, rfl⟩ := candidate_cases hplatform hp
  · exact hlogical
  · exact hlogical.append hslash hlength
  · exact hlogical.join hn

/-- What a file uses has a tidy path, if the platform has no slash in it. -/
lemma Uses.tidy (hplatform : ∀ name ∈ l.platform, '/' ∉ name.toList) {p q : Path}
    (h : Uses f l p q) : q.Tidy := by
  obtain ⟨scan, -, u, -, -, hgoal⟩ := h
  rw [goalOf, Files.script_eq] at hgoal
  exact tidy_of_mem_candidates hplatform (Path.tidy_normalize _) (List.mem_of_find?_eq_some hgoal)

/-- So has what can be reached from the page, apart from the page itself. -/
lemma Reaches.tidy (hplatform : ∀ name ∈ l.platform, '/' ∉ name.toList) {page p : Path}
    (h : Reaches f l page p) (hpage : p = page → page.Tidy) : p.Tidy := by
  rcases Relation.ReflTransGen.cases_tail h with rfl | ⟨q, -, hstep⟩
  · exact hpage rfl
  · exact hstep.tidy hplatform

end PageConfig.Resolve
