import Mathlib.Data.List.Lex
import PageConfig.Proofs.Disk.Writes
import PageConfig.Proofs.Resolve.References

/-!
# The order of candidates

A module path is looked up in three stages: the path itself; for each extension,
the path with it; and for each extension, an index file below the path.  In the
last two stages the file of the platform goes before the plain one.  `Candidate`
gives every file that can be meant its rank in this order, ranks being compared
like the numbers of sections.

A module path stands for the file of the least rank (`script_eq_some_iff`).  So
a new file matters only if its rank is less than that of the file found before:
this is the last part of `script_first_candidate`.
-/

namespace PageConfig

/-- Files to which one was added: at plain paths, nothing else became a file or ceased to be
one. -/
def Files.Adds (f : Files) (new : Path) (g : Files) : Prop :=
  ∀ p : Path, p.Plain → (g.isFile p = true ↔ f.isFile p = true ∨ p = new.normalize)

/-- A disk that is written to has one more file. -/
lemma Disk.adds_of_write {d d' : Disk} {p : Path} {text : String} (hp : p.Plain)
    (h : d.write p text = .ok d') : d.answers.Adds p d'.answers := by
  intro q hq
  change d'.isFile q = true ↔ d.isFile q = true ∨ q = p.normalize
  rw [hp.normalize_eq, Disk.isFile_iff, Disk.isFile_iff, Disk.entry?_write hp h hq]
  by_cases hqp : q = p
  · simp [hqp]
  · simp [hqp]

namespace Resolve

/-! ### Ranks -/

/-- A place in the order of candidates: the stage, the extension, and whether the file is one of the
platform. -/
abbrev Rank := List Nat

/-- A file that can stand for a module at a path, with its rank. -/
inductive Candidate (platform : Option String) (logical : Path) : Rank → Path → Prop where
  /-- First, the path itself. -/
  | itself : Candidate platform logical [1] logical
  /-- Second, the path with an extension: of the platform, if there is one, and plain. -/
  | variant {i : Nat} {ext name : String} (hext : extensions[i]? = some ext)
    (hname : platform = some name) :
    Candidate platform logical [2, i, 0] ⟨logical.text ++ ("." ++ name ++ ext)⟩
  | plain {i : Nat} {ext : String} (hext : extensions[i]? = some ext) :
    Candidate platform logical [2, i, 1] ⟨logical.text ++ ext⟩
  /-- Third, an index file below the path: of the platform, if there is one, and plain. -/
  | indexVariant {i : Nat} {ext name : String} (hext : extensions[i]? = some ext)
    (hname : platform = some name) :
    Candidate platform logical [3, i, 0] (logical.join ⟨"index" ++ ("." ++ name ++ ext)⟩)
  | indexPlain {i : Nat} {ext : String} (hext : extensions[i]? = some ext) :
    Candidate platform logical [3, i, 1] (logical.join ⟨"index" ++ ext⟩)

/-- The endings of script files in order, with their ranks. -/
def rankedEndings (platform : Option String) : List (Rank × String) :=
  extensions.zipIdx.flatMap fun (ext, i) =>
    match platform with
    | some name => [([i, 0], "." ++ name ++ ext), ([i, 1], ext)]
    | none => [([i, 1], ext)]

/-- The candidates in order, with their ranks. -/
def ranked (platform : Option String) (logical : Path) : List (Rank × Path) :=
  ([1], logical)
    :: ((rankedEndings platform).map fun (r, ending) => (2 :: r, ⟨logical.text ++ ending⟩))
    ++ (rankedEndings platform).map fun (r, ending) => (3 :: r, logical.join ⟨"index" ++ ending⟩)

variable {platform : Option String} {logical p : Path} {r : Rank}

lemma mem_rankedEndings {ending : String} :
    (r, ending) ∈ rankedEndings platform ↔
      (∃ i ext name, extensions[i]? = some ext ∧ platform = some name ∧ r = [i, 0] ∧
        ending = "." ++ name ++ ext) ∨
      ∃ i, extensions[i]? = some ending ∧ r = [i, 1] := by
  rw [rankedEndings, List.mem_flatMap]
  constructor
  · rintro ⟨⟨ext, i⟩, hext, hmem⟩
    have hi : extensions[i]? = some ext := List.mem_zipIdx_iff_getElem?.mp hext
    cases platform with
    | none =>
      obtain ⟨rfl, rfl⟩ : r = [i, 1] ∧ ending = ext := by simpa using hmem
      exact Or.inr ⟨i, hi, rfl⟩
    | some name =>
      rcases List.mem_cons.mp hmem with heq | hmem
      · obtain ⟨rfl, rfl⟩ := Prod.mk.inj heq
        exact Or.inl ⟨i, ext, name, hi, rfl, rfl, rfl⟩
      · obtain ⟨rfl, rfl⟩ : r = [i, 1] ∧ ending = ext := by simpa using hmem
        exact Or.inr ⟨i, hi, rfl⟩
  · rintro (⟨i, ext, name, hi, rfl, rfl, rfl⟩ | ⟨i, hi, rfl⟩)
    · exact ⟨(ext, i), List.mem_zipIdx_iff_getElem?.mpr hi, List.mem_cons_self⟩
    · refine ⟨(ending, i), List.mem_zipIdx_iff_getElem?.mpr hi, ?_⟩
      cases platform <;> simp

/-- The ranked candidates are the files with the ranks that `Candidate` gives them. -/
lemma mem_ranked : (r, p) ∈ ranked platform logical ↔ Candidate platform logical r p := by
  rw [ranked, List.cons_append, List.mem_cons, List.mem_append, List.mem_map, List.mem_map]
  constructor
  · rintro (heq | ⟨⟨s, ending⟩, hmem, heq⟩ | ⟨⟨s, ending⟩, hmem, heq⟩)
    · obtain ⟨rfl, rfl⟩ := Prod.mk.inj heq
      exact .itself
    · obtain ⟨rfl, rfl⟩ := Prod.mk.inj heq
      obtain ⟨i, ext, name, hi, hname, rfl, rfl⟩ | ⟨i, hi, rfl⟩ := mem_rankedEndings.mp hmem
      · exact .variant hi hname
      · exact .plain hi
    · obtain ⟨rfl, rfl⟩ := Prod.mk.inj heq
      obtain ⟨i, ext, name, hi, hname, rfl, rfl⟩ | ⟨i, hi, rfl⟩ := mem_rankedEndings.mp hmem
      · exact .indexVariant hi hname
      · exact .indexPlain hi
  · rintro (_ | ⟨hi, hname⟩ | hi | ⟨hi, hname⟩ | hi)
    · exact Or.inl rfl
    · exact Or.inr (Or.inl ⟨_, mem_rankedEndings.mpr (Or.inl ⟨_, _, _, hi, hname, rfl, rfl⟩), rfl⟩)
    · exact Or.inr (Or.inl ⟨_, mem_rankedEndings.mpr (Or.inr ⟨_, hi, rfl⟩), rfl⟩)
    · exact Or.inr (Or.inr ⟨_, mem_rankedEndings.mpr (Or.inl ⟨_, _, _, hi, hname, rfl, rfl⟩), rfl⟩)
    · exact Or.inr (Or.inr ⟨_, mem_rankedEndings.mpr (Or.inr ⟨_, hi, rfl⟩), rfl⟩)

/-- Without their ranks, they are the candidates that are tried, in the order of the trials. -/
lemma map_snd_ranked (platform : Option String) (logical : Path) :
    (ranked platform logical).map Prod.snd = candidates platform logical := by
  have hendings : (rankedEndings platform).map Prod.snd = endings platform := by
    cases platform <;> rfl
  rw [ranked, candidates, ← hendings]
  simp [Function.comp_def]

/-- The ranks grow in the order of the trials. -/
lemma pairwise_ranked (platform : Option String) (logical : Path) :
    (ranked platform logical).Pairwise fun a b => a.1 < b.1 := by
  have hranks : ((ranked platform logical).map Prod.fst).Pairwise (· < ·) := by
    cases platform with
    | none =>
      have heq : (ranked none logical).map Prod.fst
          = [[1], [2, 0, 1], [2, 1, 1], [2, 2, 1], [2, 3, 1],
              [3, 0, 1], [3, 1, 1], [3, 2, 1], [3, 3, 1]] := rfl
      rw [heq]
      decide
    | some name =>
      have heq : (ranked (some name) logical).map Prod.fst
          = [[1], [2, 0, 0], [2, 0, 1], [2, 1, 0], [2, 1, 1], [2, 2, 0], [2, 2, 1], [2, 3, 0],
              [2, 3, 1], [3, 0, 0], [3, 0, 1], [3, 1, 0], [3, 1, 1], [3, 2, 0], [3, 2, 1],
              [3, 3, 0], [3, 3, 1]] := rfl
      rw [heq]
      decide
  exact List.pairwise_map.mp hranks

/-! ### The first file -/

/-- In a list with growing ranks, what is found first has the least rank of all that pass. -/
lemma find?_map_snd_eq_some_iff {α : Type} {test : α → Bool} {l : List (Rank × α)}
    (hl : l.Pairwise fun a b => a.1 < b.1) {a : α} :
    (l.map Prod.snd).find? test = some a ↔
      ∃ r, (r, a) ∈ l ∧ test a = true ∧ ∀ r' b, (r', b) ∈ l → r' < r → test b = false := by
  induction l with
  | nil => simp
  | cons x l ih =>
    obtain ⟨r₀, a₀⟩ := x
    obtain ⟨hhead, htail⟩ := List.pairwise_cons.mp hl
    rw [List.map_cons]
    by_cases htest : test a₀ = true
    · rw [List.find?_cons_of_pos htest]
      constructor
      · rintro ⟨⟩
        refine ⟨r₀, List.mem_cons_self, htest, fun r' b hmem hlt => ?_⟩
        rcases List.mem_cons.mp hmem with heq | hmem
        · rw [(Prod.mk.inj heq).1] at hlt
          exact absurd hlt (lt_irrefl _)
        · exact absurd hlt (lt_asymm (hhead _ hmem))
      · rintro ⟨r, hmem, -, hleast⟩
        rcases List.mem_cons.mp hmem with heq | hmem
        · rw [(Prod.mk.inj heq).2]
        · have hrefused := hleast r₀ a₀ List.mem_cons_self (hhead _ hmem)
          rw [htest] at hrefused
          cases hrefused
    · rw [List.find?_cons_of_neg htest, ih htail]
      constructor
      · rintro ⟨r, hmem, ha, hleast⟩
        refine ⟨r, List.mem_cons_of_mem _ hmem, ha, fun r' b hmem' hlt => ?_⟩
        rcases List.mem_cons.mp hmem' with heq | hmem'
        · rw [(Prod.mk.inj heq).2]
          exact Bool.eq_false_iff.mpr htest
        · exact hleast r' b hmem' hlt
      · rintro ⟨r, hmem, ha, hleast⟩
        rcases List.mem_cons.mp hmem with heq | hmem
        · rw [(Prod.mk.inj heq).2] at ha
          exact absurd ha htest
        · exact ⟨r, hmem, ha, fun r' b hmem' => hleast r' b (List.mem_cons_of_mem _ hmem')⟩

section

variable {f g : Files} {new old : Path}

/-- **A module path stands for the candidate of the least rank that is a file.** -/
theorem script_eq_some_iff :
    f.script platform logical = some p ↔
      ∃ r, Candidate platform logical.normalize r p ∧ f.isFile p = true ∧
        ∀ r' q, Candidate platform logical.normalize r' q → r' < r → f.isFile q = false := by
  rw [Files.script_eq, ← map_snd_ranked, find?_map_snd_eq_some_iff (pairwise_ranked _ _)]
  simp only [mem_ranked]

/-- It stands for nothing only if no candidate is a file. -/
lemma script_eq_none_iff :
    f.script platform logical = none ↔
      ∀ r q, Candidate platform logical.normalize r q → f.isFile q = false := by
  rw [Files.script_eq, ← map_snd_ranked, List.find?_eq_none]
  constructor
  · intro hnone r q hq
    exact Bool.eq_false_iff.mpr (hnone q (List.mem_map.mpr ⟨(r, q), mem_ranked.mpr hq, rfl⟩))
  · intro hnone q hq
    obtain ⟨⟨r, _⟩, hmem, rfl⟩ := List.mem_map.mp hq
    exact Bool.eq_false_iff.mp (hnone r _ (mem_ranked.mp hmem))

/-- A candidate is one of those that are tried. -/
lemma Candidate.mem_candidates (h : Candidate platform logical r p) :
    p ∈ candidates platform logical := by
  rw [← map_snd_ranked]
  exact List.mem_map.mpr ⟨(r, p), mem_ranked.mpr h, rfl⟩

/-- A rank has one candidate. -/
lemma Candidate.unique {q : Path} (hp : Candidate platform logical r p)
    (hq : Candidate platform logical r q) : p = q := by
  cases hp with
  | itself =>
    cases hq
    rfl
  | variant hext hname =>
    cases hq with
    | variant hext' hname' =>
      rw [Option.some.inj (hext.symm.trans hext'), Option.some.inj (hname.symm.trans hname')]
  | plain hext =>
    cases hq with
    | plain hext' =>
      rw [Option.some.inj (hext.symm.trans hext')]
  | indexVariant hext hname =>
    cases hq with
    | indexVariant hext' hname' =>
      rw [Option.some.inj (hext.symm.trans hext'), Option.some.inj (hname.symm.trans hname')]
  | indexPlain hext =>
    cases hq with
    | indexPlain hext' =>
      rw [Option.some.inj (hext.symm.trans hext')]

/-- A file in normal form stands for itself. -/
lemma script_self (hp : p.normalize = p) (hfile : f.isFile p = true) :
    f.script platform p = some p := by
  rw [Files.script_eq, hp, candidates, List.cons_append, List.find?_cons_of_pos hfile]

/-! ### One more file -/

/-- What a module path stands for changes with one more file only if this file is a candidate, and
of a lesser rank than the file found before; then the new file is meant. -/
lemma script_of_adds (hplatform : ∀ name ∈ platform, '/' ∉ name.toList)
    (hlogical : logical.normalize.Plain) (hadds : f.Adds new g)
    (hne : g.script platform logical ≠ f.script platform logical) :
    g.script platform logical = some new.normalize ∧
      ∃ r, Candidate platform logical.normalize r new.normalize ∧
        ∀ old r', f.script platform logical = some old →
          Candidate platform logical.normalize r' old → r < r' := by
  have hplain : ∀ r p, Candidate platform logical.normalize r p → p.Plain := fun r p hp =>
    plain_of_mem_candidates hplatform hlogical hp.mem_candidates
  have hkept : ∀ r p, Candidate platform logical.normalize r p → g.isFile p = false →
      f.isFile p = false := by
    intro r p hp hno
    rw [Bool.eq_false_iff] at hno ⊢
    exact fun hfile => hno ((hadds p (hplain r p hp)).mpr (Or.inl hfile))
  cases hg : g.script platform logical with
  | none =>
    have hnone : f.script platform logical = none :=
      script_eq_none_iff.mpr fun r p hp => hkept r p hp (script_eq_none_iff.mp hg r p hp)
    exact absurd (hg.trans hnone.symm) hne
  | some q =>
    obtain ⟨r, hq, hfile, hleast⟩ := script_eq_some_iff.mp hg
    -- the file that is meant now was none before, or it would have been meant already
    have hfresh : f.isFile q = false := by
      rw [Bool.eq_false_iff]
      intro hold
      have hsame : f.script platform logical = some q :=
        script_eq_some_iff.mpr ⟨r, hq, hold, fun r' p hp hlt => hkept r' p hp (hleast r' p hp hlt)⟩
      exact hne (hg.trans hsame.symm)
    obtain rfl : q = new.normalize := by
      rcases (hadds q (hplain r q hq)).mp hfile with hold | hnew
      · rw [hfresh] at hold
        cases hold
      · exact hnew
    refine ⟨rfl, r, hq, fun old r' hold hcandidate => ?_⟩
    have holdFile : f.isFile old = true := Files.isFile_of_script hold
    rcases lt_trichotomy r r' with hlt | rfl | hlt
    · exact hlt
    · rw [← hq.unique hcandidate, hfresh] at holdFile
      cases holdFile
    · have hno := hkept r' old hcandidate (hleast r' old hcandidate hlt)
      rw [hno] at holdFile
      cases holdFile

end

/-- **What a module path stands for.**  Let the path start at the root, and let the platform have no
slash in it.  If a file is found, it is one, its path is in normal form, and no candidate of a
lesser rank is a file; nothing is found only if no candidate is a file.

What is found depends on the normal form of the path only, and a file that is found is found again
at its own path.  With one more file, the result changes only if the new file is a candidate of a
lesser rank than what was found before, if anything was; and then the new file is found. -/
theorem script_first_candidate {f : Files} (hlogical : logical.isAbsolute = true)
    (hplatform : ∀ name ∈ platform, '/' ∉ name.toList) :
    (∀ p, f.script platform logical = some p →
      f.isFile p = true ∧ p.normalize = p ∧
        ∃ r, Candidate platform logical.normalize r p ∧
          ∀ r' q, Candidate platform logical.normalize r' q → r' < r → f.isFile q = false) ∧
      (f.script platform logical = none ↔
        ∀ r q, Candidate platform logical.normalize r q → f.isFile q = false) ∧
      (∀ other : Path, other.normalize = logical.normalize →
        f.script platform other = f.script platform logical) ∧
      (∀ p, f.script platform logical = some p → f.script platform p = some p) ∧
      ∀ (g : Files) (new : Path), f.Adds new g →
        g.script platform logical ≠ f.script platform logical →
        g.script platform logical = some new.normalize ∧
          ∃ r, Candidate platform logical.normalize r new.normalize ∧
            ∀ old r', f.script platform logical = some old →
              Candidate platform logical.normalize r' old → r < r' := by
  have hrooted : logical.Rooted := Path.rooted_of_isAbsolute hlogical
  have hnormal : ∀ p, f.script platform logical = some p → p.normalize = p := fun p hp =>
    (Files.holds_of_script hplatform hrooted hp).plain.normalize_eq
  refine ⟨fun p hp => ⟨Files.isFile_of_script hp, hnormal p hp, ?_⟩, script_eq_none_iff, ?_, ?_, ?_⟩
  · obtain ⟨r, hr, -, hleast⟩ := script_eq_some_iff.mp hp
    exact ⟨r, hr, hleast⟩
  · intro other hother
    rw [Files.script_eq, Files.script_eq, hother]
  · exact fun p hp => script_self (hnormal p hp) (Files.isFile_of_script hp)
  · exact fun g new => script_of_adds hplatform hrooted.plain_normalize

/-- A disk with a module that is a directory. -/
def shelf : Disk :=
  ⟨[(["src"], .directory), (["src", "c"], .directory),
    (["src", "c", "index.js"], .file (.text ""))], []⟩

/-- The module stands for its index file, until a file of the platform is written beside it. -/
theorem script_first_candidate_shelf :
    (⟨"/src/./p/../c"⟩ : Path).isAbsolute = true ∧ (∀ name ∈ some "h5", '/' ∉ name.toList) ∧
      shelf.answers.script (some "h5") ⟨"/src/./p/../c"⟩ = some ⟨"/src/c/index.js"⟩ ∧
      shelf.answers.script (some "h5") ⟨"/src/c/index.js"⟩ = some ⟨"/src/c/index.js"⟩ ∧
      ∃ d, shelf.write ⟨"/src/c.h5.ts"⟩ "" = .ok d ∧
        d.answers.script (some "h5") ⟨"/src/./p/../c"⟩ = some ⟨"/src/c.h5.ts"⟩ ∧
        ∃ r, Candidate (some "h5") ⟨"/src/c"⟩ r ⟨"/src/c.h5.ts"⟩ ∧
          ∀ r', Candidate (some "h5") ⟨"/src/c"⟩ r' ⟨"/src/c/index.js"⟩ → r < r' := by
  have habsolute : (⟨"/src/./p/../c"⟩ : Path).isAbsolute = true := by decide
  have hplatform : ∀ name ∈ some "h5", '/' ∉ name.toList := by decide
  have hnormal : (⟨"/src/./p/../c"⟩ : Path).normalize = ⟨"/src/c"⟩ := by decide
  have hfound : shelf.answers.script (some "h5") ⟨"/src/./p/../c"⟩ = some ⟨"/src/c/index.js"⟩ := by
    decide
  have hwrite : shelf.write ⟨"/src/c.h5.ts"⟩ ""
      = .ok (shelf.set ["src", "c.h5.ts"] (.file (.text ""))) := by rfl
  have hplain : (⟨"/src/c.h5.ts"⟩ : Path).Plain := by
    have hrooted : (⟨"/src/c.h5.ts"⟩ : Path).Rooted := Path.rooted_of_isAbsolute (by decide)
    have hnormalised := hrooted.plain_normalize
    rwa [show (⟨"/src/c.h5.ts"⟩ : Path).normalize = ⟨"/src/c.h5.ts"⟩ by decide] at hnormalised
  obtain ⟨-, -, -, hagain, hadds⟩ :=
    script_first_candidate (f := shelf.answers) habsolute hplatform
  obtain ⟨hnew, r, hr, hless⟩ := hadds _ _ (Disk.adds_of_write hplain hwrite) (by decide)
  rw [hplain.normalize_eq] at hnew hr
  rw [hnormal] at hr hless
  exact ⟨habsolute, hplatform, hfound, hagain _ hfound, _, hwrite, hnew, r, hr,
    fun r' => hless _ r' hfound⟩

end Resolve

end PageConfig
