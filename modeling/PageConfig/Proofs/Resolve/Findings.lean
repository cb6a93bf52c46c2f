import Mathlib.Data.List.Perm.Basic
import PageConfig.Proofs.Resolve.Cycle
import PageConfig.Proofs.Resolve.Independent

/-!
# What is found for each file

Cycles apart, what a search records is about one file each time: that it has no
scan, that a value of its config is no literal, that a component it declares or
uses has no file.  A search records this for every file when it meets it, and it
meets no file twice.  So up to order, what is found for a page is what is found
for the page itself and for each of the files that can be reached from it
(`findingsAlone_perm`), in whatever order the search met them.

Cycles do not fit in here: where a circle is entered, and so which file it is
told from, depends on the way the search goes.
-/

namespace PageConfig.Resolve

open PageConfig.Extract (Scan Usage)
open PageConfig.Json (Fields)

variable {f : Files} {l : Lookup} {pageDir page : Path}

/-! ### Findings about one file -/

/-- The findings for components that a file uses and that have no file. -/
def unmet (f : Files) (l : Lookup) (file : Path) (us : List Usage) : List Finding :=
  us.filterMap fun u =>
    if Path.isRelativeSpecifier u.specifier && (goalOf f l file u.specifier).isNone then
      some (missingAt l file u.name u.specifier)
    else none

/-- What is found for a component file when it is met. -/
def ownFindings (f : Files) (l : Lookup) (file : Path) : List Finding :=
  match f.scan file with
  | .ok scan => omissions l file scan.omitted ++ gaps f l file (scan.declared?.getD [])
      ++ unmet f l file scan.usages
  | .error e => [.parseError (l.display file) e]

/-- What is found for a page itself.  What a page declares is taken as it is, so it has no gaps. -/
def pageFindings (f : Files) (l : Lookup) (file : Path) : List Finding :=
  match f.scan file with
  | .ok scan => omissions l file scan.omitted ++ unmet f l file scan.usages
  | .error e => [.parseError (l.display file) e]

lemma ownFindings_of_ok {file : Path} {scan : Scan} (hscan : f.scan file = .ok scan) :
    ownFindings f l file
      = omissions l file scan.omitted ++ gaps f l file (scan.declared?.getD [])
        ++ unmet f l file scan.usages := by
  simp [ownFindings, hscan]

lemma ownFindings_of_error {file : Path} {e : String} (hscan : f.scan file = .error e) :
    ownFindings f l file = [.parseError (l.display file) e] := by
  simp [ownFindings, hscan]

lemma pageFindings_of_ok {file : Path} {scan : Scan} (hscan : f.scan file = .ok scan) :
    pageFindings f l file = omissions l file scan.omitted ++ unmet f l file scan.usages := by
  simp [pageFindings, hscan]

lemma pageFindings_of_error {file : Path} {e : String} (hscan : f.scan file = .error e) :
    pageFindings f l file = [.parseError (l.display file) e] := by
  simp [pageFindings, hscan]

/-- A package adds nothing to what has no file. -/
lemma unmet_package {file : Path} {u : Usage} {us : List Usage}
    (hrel : Path.isRelativeSpecifier u.specifier = false) :
    unmet f l file (u :: us) = unmet f l file us := by
  simp [unmet, hrel]

/-- A component without a file is found to be missing. -/
lemma unmet_missing {file : Path} {u : Usage} {us : List Usage}
    (hrel : Path.isRelativeSpecifier u.specifier = true)
    (hgoal : goalOf f l file u.specifier = none) :
    unmet f l file (u :: us) = missingAt l file u.name u.specifier :: unmet f l file us := by
  simp [unmet, hrel, hgoal]

/-- A component with a file adds nothing to what has none. -/
lemma unmet_step {file goal : Path} {u : Usage} {us : List Usage}
    (hgoal : goalOf f l file u.specifier = some goal) :
    unmet f l file (u :: us) = unmet f l file us := by
  simp [unmet, hgoal]

/-- An error is recorded for a file only if the file has none other than this error for a scan. -/
lemma scan_of_parseError_mem {file : Path} {shown e : String}
    (h : .parseError shown e ∈ ownFindings f l file ∨ .parseError shown e ∈ pageFindings f l file) :
    f.scan file = .error e ∧ shown = l.display file := by
  cases hscan : f.scan file with
  | ok scan =>
    have homissions : .parseError shown e ∉ omissions l file scan.omitted := by
      simp [omissions]
    have hgaps : .parseError shown e ∉ gaps f l file (scan.declared?.getD []) := by
      simp [gaps, Option.bind_eq_some_iff]
    have hunmet : .parseError shown e ∉ unmet f l file scan.usages := by
      simp [unmet, missingAt]
    rw [ownFindings_of_ok hscan, pageFindings_of_ok hscan] at h
    simp only [List.mem_append, homissions, hgaps, hunmet, or_self] at h
  | error e' =>
    rw [ownFindings_of_error hscan, pageFindings_of_error hscan, or_self, List.mem_singleton] at h
    obtain ⟨rfl, rfl⟩ := Finding.parseError.inj h
    exact ⟨rfl, rfl⟩

/-! ### Findings without cycles -/

/-- The findings that tell of no cycle. -/
def remarks (xs : List Finding) : List Finding := xs.filter fun x => !isCycle x

@[simp] lemma remarks_append (xs ys : List Finding) :
    remarks (xs ++ ys) = remarks xs ++ remarks ys := List.filter_append ..

/-- A finding is a remark exactly when it tells of no cycle. -/
lemma mem_remarks {xs : List Finding} {x : Finding} :
    x ∈ remarks xs ↔ x ∈ xs ∧ isCycle x = false := by
  simp [remarks]

/-- Findings none of which tells of a cycle are all kept. -/
lemma remarks_eq_self {xs : List Finding} (h : ∀ x ∈ xs, isCycle x = false) : remarks xs = xs := by
  apply List.filter_eq_self.mpr
  intro x hx
  rw [h x hx]
  rfl

@[simp] lemma remarks_omissions (l : Lookup) (file : Path) (omitted : List Extract.Omission) :
    remarks (omissions l file omitted) = omissions l file omitted := by
  apply remarks_eq_self
  intro x hx
  obtain ⟨o, -, rfl⟩ := List.mem_map.mp hx
  rfl

@[simp] lemma remarks_gaps (f : Files) (l : Lookup) (file : Path) (fields : Fields) :
    remarks (gaps f l file fields) = gaps f l file fields := by
  apply remarks_eq_self
  intro x hx
  obtain ⟨d, -, hd⟩ := List.mem_filterMap.mp hx
  obtain ⟨s, -, hs⟩ := Option.bind_eq_some_iff.mp hd
  split at hs
  · cases hs
    rfl
  · cases hs

@[simp] lemma remarks_missingAt (l : Lookup) (file : Path) (name specifier : String) :
    remarks [missingAt l file name specifier] = [missingAt l file name specifier] := rfl

@[simp] lemma remarks_parseError (shown e : String) :
    remarks [.parseError shown e] = [.parseError shown e] := rfl

@[simp] lemma remarks_cycleAt (l : Lookup) (t : Trail) (chain : List Path) (file : Path) :
    remarks [cycleAt l t chain file] = [] := rfl

/-- The components of an errand that have no file. -/
def Errand.unmet (f : Files) (l : Lookup) : Errand → List Finding
  | .visit _ => []
  | .usages file us => Resolve.unmet f l file us

/-- What an errand adds to the findings, cycles apart and up to order: what its own components
lack, and what is found for each file that it meets. -/
theorem Walks.remarks_perm {e : Errand} {t t' : Trail} (h : Walks f l pageDir e t t') :
    ∃ new : List Path, t'.visited = new.reverse ++ t.visited ∧
      (remarks t'.findings).Perm
        (remarks t.findings ++ (e.unmet f l ++ new.flatMap (ownFindings f l))) := by
  induction h with
  | cycle =>
    refine ⟨[], rfl, ?_⟩
    simp [Errand.unmet]
  | seen =>
    refine ⟨[], rfl, ?_⟩
    simp [Errand.unmet]
  | @unscanned file t e _ _ hscan =>
    refine ⟨[file], rfl, ?_⟩
    simp [Errand.unmet, ownFindings_of_error hscan]
  | @scanned file t t' scan _ _ hscan _ ih =>
    obtain ⟨new, hvisited, hperm⟩ := ih
    refine ⟨file :: new, ?_, ?_⟩
    · simp [hvisited]
    · -- what is found on entering the file stands before what the errand below it adds
      simpa [Errand.unmet, ownFindings_of_ok hscan] using hperm
  | nil =>
    refine ⟨[], rfl, ?_⟩
    simp [Errand.unmet, Resolve.unmet]
  | package hrel _ ih =>
    obtain ⟨new, hvisited, hperm⟩ := ih
    refine ⟨new, hvisited, ?_⟩
    rw [Errand.unmet, unmet_package hrel]
    exact hperm
  | missing hrel hgoal _ ih =>
    obtain ⟨new, hvisited, hperm⟩ := ih
    refine ⟨new, hvisited, ?_⟩
    rw [Errand.unmet, unmet_missing hrel hgoal]
    simpa [Errand.unmet] using hperm
  | @step file goal u us t t' t'' hrel hgoal _ _ ihfirst ihrest =>
    obtain ⟨new₁, hvisited₁, hperm₁⟩ := ihfirst
    obtain ⟨new₂, hvisited₂, hperm₂⟩ := ihrest
    refine ⟨new₁ ++ new₂, ?_, ?_⟩
    · rw [hvisited₂, hvisited₁, List.reverse_append, List.append_assoc]
    · rw [Errand.unmet, unmet_step hgoal, List.flatMap_append]
      simp only [Errand.unmet, List.nil_append] at hperm₁ hperm₂
      refine hperm₂.trans ((hperm₁.append_right _).trans ?_)
      rw [List.append_assoc]
      refine List.Perm.append_left _ ?_
      -- the files met first come before what the other components lack
      rw [← List.append_assoc, ← List.append_assoc]
      exact List.perm_append_comm.append_right _

/-! ### Pages -/

/-- Files that are the page and all that can be reached from it, each once. -/
structure EachOnce (f : Files) (l : Lookup) (page : Path) (files : List Path) : Prop where
  apart : files.Pairwise Apart
  reached : ∀ p ∈ files, Reaches f l page p
  all : ∀ p, Reaches f l page p → Path.Among files p

/-- From a page without a scan nothing else is reached. -/
lemma eachOnce_of_error {e : String} (hscan : f.scan page = .error e) :
    EachOnce f l page [page] := by
  refine ⟨List.pairwise_singleton _ _, ?_, ?_⟩
  · intro p hp
    obtain rfl := List.mem_singleton.mp hp
    exact .refl
  · intro p hp
    rcases Relation.ReflTransGen.cases_head hp with rfl | ⟨q, hstep, -⟩
    · exact Path.among_of_mem List.mem_cons_self
    · exact absurd hstep (not_uses_of_error hscan)

/-- The page and the files that its search meets are all that can be reached, each once. -/
lemma Walks.eachOnce {t : Trail} {scan : Scan} {before : List Finding}
    (hscan : f.scan page = .ok scan)
    (h : Walks f l pageDir (.usages page scan.usages) (startTrail l page scan before) t) :
    EachOnce f l page (page :: t.visited) := by
  have hsound : t.Sound f l page := h.sound (fits_startTrail hscan before) (sound_startTrail ..)
  refine ⟨?_, ?_, ?_⟩
  · exact List.pairwise_cons.mpr ⟨hsound.visited_page, hsound.visited_apart⟩
  · intro p hp
    rcases List.mem_cons.mp hp with rfl | hp
    · exact .refl
    · exact hsound.visited_reached p hp
  · intro p hp
    rw [Path.among_cons]
    by_cases hpage : page.same p = true
    · exact Or.inl hpage
    · exact Or.inr ((h.among_visited_iff hscan hp).mpr hpage)

/-- Up to order and cycles apart, the search for a page records what is found for the page and for
the files that it meets. -/
lemma Walks.remarks_page {t : Trail} {scan : Scan} (hscan : f.scan page = .ok scan)
    (h : Walks f l pageDir (.usages page scan.usages) (startTrail l page scan []) t) :
    (remarks t.findings).Perm
      (pageFindings f l page ++ t.visited.flatMap (ownFindings f l)) := by
  obtain ⟨new, hvisited, hperm⟩ := h.remarks_perm
  have hnew : new.Perm t.visited := by
    rw [hvisited]
    simp [startTrail]
  have hstart : remarks (startTrail l page scan []).findings = omissions l page scan.omitted := by
    simp [startTrail]
  rw [hstart, Errand.unmet, ← List.append_assoc, ← pageFindings_of_ok hscan] at hperm
  exact hperm.trans ((hnew.flatMap_right _).append_left _)

/-- **What is found for a page is found file by file.**  Where all files that a page uses are known,
and at every depth above their number, the findings for a page that tell of no cycle are, up to
order, those for the page itself and for each of the other files that can be reached, each file
counted once. -/
theorem findingsAlone_perm {known : List Path} (hknown : Covers f l page known) {depth : Nat}
    (hdepth : known.length < depth) :
    ∃ components, EachOnce f l page (page :: components) ∧
      (remarks (findingsAlone f l depth page)).Perm
        (pageFindings f l page ++ components.flatMap (ownFindings f l)) := by
  cases hscan : f.scan page with
  | error e =>
    refine ⟨[], eachOnce_of_error hscan, ?_⟩
    rw [findingsAlone, ask_page_of_error hscan, pageFindings_of_error hscan]
    rfl
  | ok scan =>
    obtain ⟨t, hwalks, hjob⟩ := walks_page hscan hknown []
    refine ⟨t.visited, hwalks.eachOnce hscan, ?_⟩
    rw [findingsAlone, (hjob depth hdepth).1]
    exact hwalks.remarks_page hscan

end PageConfig.Resolve
