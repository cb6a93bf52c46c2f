import PageConfig.Proofs.Path.Places
import PageConfig.Proofs.Resolve.Independent

/-!
# What a search asks for

A search that starts at the root asks for files at plain paths only, and reads
only what it has found to be a file.  Files that agree there give it the same
answers, so it goes the same way on both, from a script up to a whole page
(`Agree.ask_page`).

The root itself is no file.  Otherwise a component could be the root, and what
it uses would be looked for from wherever relative paths start.
-/

namespace PageConfig

namespace Resolve

/-- The files that can stand for a module at a plain path have plain paths. -/
lemma plain_of_mem_candidates {platform : Option String}
    (hplatform : ∀ name ∈ platform, '/' ∉ name.toList) {logical p : Path} (hlogical : logical.Plain)
    (hp : p ∈ candidates platform logical) : p.Plain := by
  obtain rfl | ⟨e, hslash, hlength, rfl⟩ | ⟨n, hn, rfl⟩ := candidate_cases hplatform hp
  · exact hlogical
  · exact hlogical.append hslash hlength
  · exact hlogical.join hn

end Resolve

namespace Files

open PageConfig.Extract (Scan Usage)
open PageConfig.Json (Fields)
open PageConfig.Resolve

/-- A file at a plain path. -/
structure Holds (f : Files) (p : Path) : Prop where
  plain : p.Plain
  isFile : f.isFile p = true

/-- What a module path that starts at the root stands for is a file at a plain path. -/
lemma holds_of_script {f : Files} {platform : Option String}
    (hplatform : ∀ name ∈ platform, '/' ∉ name.toList) {logical file : Path}
    (hlogical : logical.Rooted) (h : f.script platform logical = some file) : f.Holds file := by
  refine ⟨?_, isFile_of_script h⟩
  rw [script_eq] at h
  exact plain_of_mem_candidates hplatform hlogical.plain_normalize (List.mem_of_find?_eq_some h)

/-- Files that agree on what is a file at plain paths, and on the texts of those files. -/
structure Agree (f g : Files) : Prop where
  isFile : ∀ p, p.Plain → f.isFile p = g.isFile p
  read : ∀ p, f.Holds p → f.read p = g.read p
  root : f.isFile (Place.path []) = false

namespace Agree

variable {f g : Files} {l : Lookup} {file : Path}

/-- The directory that holds a file starts at the root. -/
lemma rooted_parent (h : f.Agree g) (hfile : f.Holds file) : file.parent.Rooted := by
  apply hfile.plain.rooted_parent
  rintro rfl
  have hroot := hfile.isFile
  rw [h.root] at hroot
  cases hroot

/-- Module paths that start at the root stand for the same file. -/
lemma script (h : f.Agree g) {platform : Option String}
    (hplatform : ∀ name ∈ platform, '/' ∉ name.toList) {logical : Path}
    (hlogical : logical.Rooted) : f.script platform logical = g.script platform logical := by
  have hcandidates : ∀ p ∈ candidates platform logical.normalize, f.isFile p = g.isFile p := by
    intro p hp
    exact h.isFile p (plain_of_mem_candidates hplatform hlogical.plain_normalize hp)
  rw [script_eq, script_eq, ← List.head?_filter, ← List.head?_filter,
    List.filter_congr hcandidates]

/-- Files have the same scan. -/
lemma scan (h : f.Agree g) (hfile : f.Holds file) : f.scan file = g.scan file := by
  rw [scan_eq, scan_eq, h.read file hfile]

section

variable (h : f.Agree g) (hplatform : ∀ name ∈ l.platform, '/' ∉ name.toList)
include h hplatform

/-- Specifiers in a file stand for the same files. -/
lemma goalOf (hfile : f.Holds file) : goalOf f l file = goalOf g l file := by
  funext specifier
  exact h.script hplatform ((h.rooted_parent hfile).join _)

/-- What a specifier in a file stands for is a file. -/
lemma holds_of_goalOf (hfile : f.Holds file) {specifier : String} {goal : Path}
    (hgoal : Resolve.goalOf f l file specifier = some goal) : f.Holds goal :=
  holds_of_script hplatform ((h.rooted_parent hfile).join _) hgoal

/-- Collecting what a file declares comes to the same. -/
lemma ask_collect (pageDir : Path) (hfile : f.Holds file) (fields : Fields) (t : Trail) :
    (collect l pageDir file fields t).ask f = (collect l pageDir file fields t).ask g := by
  have hgoal := h.goalOf hplatform hfile
  have hreference : referenceOf f l pageDir file = referenceOf g l pageDir file := by
    funext v
    rw [referenceOf, referenceOf, hgoal]
  rw [Resolve.ask_collect, Resolve.ask_collect, contributions, contributions, gaps, gaps,
    hreference, hgoal]

/-- Following components comes to the same, if following one does. -/
lemma ask_follow {visit : Path → Trail → Job Trail}
    (hvisit : ∀ goal t, f.Holds goal → (visit goal t).ask f = (visit goal t).ask g)
    (hfile : f.Holds file) (us : List Usage) (t : Trail) :
    (follow l visit file us t).ask f = (follow l visit file us t).ask g := by
  induction us generalizing t with
  | nil => rfl
  | cons u us ih =>
    by_cases hrel : Path.isRelativeSpecifier u.specifier = true
    · cases hgoal : Resolve.goalOf f l file u.specifier with
      | none =>
        have hgoal' : Resolve.goalOf g l file u.specifier = none := by
          rw [← h.goalOf hplatform hfile, hgoal]
        simp [follow, hrel, ask_target, hgoal, hgoal', ih]
      | some goal =>
        have hgoal' : Resolve.goalOf g l file u.specifier = some goal := by
          rw [← h.goalOf hplatform hfile, hgoal]
        have hholds : f.Holds goal := h.holds_of_goalOf hplatform hfile hgoal
        simp [follow, hrel, ask_target, hgoal, hgoal', ih, hvisit goal _ hholds]
    · simp [follow, hrel, ih]

/-- Following a component comes to the same. -/
lemma ask_component (pageDir : Path) (depth : Nat) (hfile : f.Holds file) (t : Trail) :
    (component l pageDir depth file t).ask f = (component l pageDir depth file t).ask g := by
  induction depth generalizing file t with
  | zero => rfl
  | succ depth ih =>
    cases hon : t.since? file with
    | some chain => simp [component, hon]
    | none =>
      cases hseen : t.hasVisited file with
      | true => simp [component, hon, hseen]
      | false =>
        have hscan' := h.scan hfile
        cases hscan : f.scan file with
        | error e =>
          rw [hscan] at hscan'
          simp [component, hon, hseen, ask_scanned, hscan, ← hscan']
        | ok scan =>
          rw [hscan] at hscan'
          have hdown := h.ask_follow hplatform (fun goal t hgoal => ih hgoal t) hfile scan.usages
          simp [component, hon, hseen, ask_scanned, hscan, ← hscan',
            h.ask_collect hplatform pageDir hfile, hdown]

/-- A page comes to the same. -/
lemma ask_page (depth : Nat) (hfile : f.Holds file) (before : List Finding) :
    (page l depth file before).ask f = (page l depth file before).ask g := by
  have hscan' := h.scan hfile
  cases hscan : f.scan file with
  | error e =>
    rw [hscan] at hscan'
    rw [ask_page_of_error hscan, ask_page_of_error hscan'.symm]
  | ok scan =>
    rw [hscan] at hscan'
    have hsearched : searched f l depth file scan before = searched g l depth file scan before :=
      h.ask_follow hplatform (fun goal t hgoal => h.ask_component hplatform _ depth hgoal t) hfile
        scan.usages _
    rw [ask_page_of_ok hscan, ask_page_of_ok hscan'.symm, hsearched]

end

end Agree

end Files

end PageConfig
