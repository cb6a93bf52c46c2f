import PageConfig.Proofs.Resolve.Graph

/-!
# The search as a relation

`component` follows files to a given depth, because a job cannot know how many
files there are.  `Walks` is the search without a depth: a derivation of it is
a search that has come to its end, and its rules are the exits of the search,
one by one.  Where only finitely many files can be met, a depth above their
number is never reached, and the job does what the relation says
(`walks_component`, `walks_follow`).  Everything that is said about searches
is proved by induction on the rules.
-/

namespace PageConfig.Resolve

open PageConfig.Extract (Scan Usage Omission)
open PageConfig.Json (Value Fields)

/-! ### Trails -/

namespace Trail

@[simp] lemma add_stack (t : Trail) (fs : List Finding) : (t.add fs).stack = t.stack := rfl
@[simp] lemma add_visited (t : Trail) (fs : List Finding) : (t.add fs).visited = t.visited := rfl
@[simp] lemma add_inUse (t : Trail) (fs : List Finding) : (t.add fs).inUse = t.inUse := rfl
@[simp] lemma add_findings (t : Trail) (fs : List Finding) :
    (t.add fs).findings = t.findings ++ fs := rfl

@[simp] lemma visit_stack (t : Trail) (p : Path) : (t.visit p).stack = t.stack := rfl
@[simp] lemma visit_visited (t : Trail) (p : Path) : (t.visit p).visited = p :: t.visited := rfl
@[simp] lemma visit_inUse (t : Trail) (p : Path) : (t.visit p).inUse = t.inUse := rfl
@[simp] lemma visit_findings (t : Trail) (p : Path) : (t.visit p).findings = t.findings := rfl

@[simp] lemma push_stack (t : Trail) (p : Path) : (t.push p).stack = t.stack ++ [p] := rfl
@[simp] lemma push_visited (t : Trail) (p : Path) : (t.push p).visited = t.visited := rfl
@[simp] lemma push_inUse (t : Trail) (p : Path) : (t.push p).inUse = t.inUse := rfl
@[simp] lemma push_findings (t : Trail) (p : Path) : (t.push p).findings = t.findings := rfl

@[simp] lemma pop_stack (t : Trail) : t.pop.stack = t.stack.dropLast := rfl
@[simp] lemma pop_visited (t : Trail) : t.pop.visited = t.visited := rfl
@[simp] lemma pop_inUse (t : Trail) : t.pop.inUse = t.inUse := rfl
@[simp] lemma pop_findings (t : Trail) : t.pop.findings = t.findings := rfl

/-- A file was met when it is among the files met. -/
lemma hasVisited_iff {t : Trail} {p : Path} : t.hasVisited p = true ↔ Path.Among t.visited p := by
  simp [hasVisited, Path.Among]

/-- A file is not being followed when no file on the stack is the same. -/
lemma since?_eq_none {t : Trail} {p : Path} : t.since? p = none ↔ ¬ Path.Among t.stack p := by
  simp [since?, Path.Among, List.findIdx?_eq_none_iff]

/-- The files from one on that is being followed. -/
lemma since?_eq_some {t : Trail} {p : Path} {chain : List Path} (h : t.since? p = some chain) :
    ∃ before q rest, t.stack = before ++ q :: rest ∧ q.same p = true ∧ chain = q :: rest := by
  obtain ⟨i, hi, rfl⟩ := Option.map_eq_some_iff.mp h
  obtain ⟨hlt, hsame, -⟩ := List.findIdx?_eq_some_iff_getElem.mp hi
  refine ⟨t.stack.take i, t.stack[i], t.stack.drop (i + 1), ?_, hsame, ?_⟩
  · rw [← List.drop_eq_getElem_cons hlt, List.take_append_drop]
  · exact List.drop_eq_getElem_cons hlt

end Trail

/-! ### Steps on files -/

/-- The reference by which the page names what a file declares, if it stands for something: a
package as it is written, a file by its place. -/
def referenceOf (f : Files) (l : Lookup) (pageDir file : Path) (v : Value) : Option String :=
  v.string?.bind fun s =>
    if Path.isRelativeSpecifier s then (goalOf f l file s).map (Path.moduleReference pageDir)
    else some s

/-- The names that a file declares, with the references by which the page names them. -/
def contributions (f : Files) (l : Lookup) (pageDir file : Path) (fields : Fields) :
    List (String × String) :=
  fields.filterMap fun d => (referenceOf f l pageDir file d.2).map (d.1, ·)

/-- The findings for what a file declares and cannot be found. -/
def gaps (f : Files) (l : Lookup) (file : Path) (fields : Fields) : List Finding :=
  fields.filterMap fun d => d.2.string?.bind fun s =>
    if Path.isRelativeSpecifier s && (goalOf f l file s).isNone then
      some (.missingComponent (l.display file) d.1 s)
    else none

/-- References entered one after another. -/
def Using.insertAll (u : Using) (entries : List (String × String)) : Using :=
  entries.foldl (fun u e => u.insert e.1 e.2) u

/-- The finding for a specifier that stands for no file. -/
def missingAt (l : Lookup) (file : Path) (name specifier : String) : Finding :=
  .missingComponent (l.display file) name specifier

variable {f : Files} {l : Lookup} {pageDir : Path}

/-- The scan of a file and its findings. -/
lemma ask_scanned (f : Files) (l : Lookup) (file : Path) :
    (scanned l file).ask f = match f.scan file with
      | .ok scan => (some scan, omissions l file scan.omitted)
      | .error e => (none, [.parseError (l.display file) e]) := by
  simp only [scanned, Job.bind_eq, Job.ask_bind, Files.ask_scanFile]
  cases f.scan file <;> rfl

/-- A scan reads its file and nothing else. -/
lemma reads_scanned (f : Files) (l : Lookup) (file : Path) :
    (scanned l file).reads f = [file] := by
  simp only [scanned, Job.bind_eq, Job.reads_bind, Files.reads_scanFile, Files.ask_scanFile]
  cases f.scan file <;> rfl

/-- What a specifier stands for, and the finding if it stands for nothing. -/
lemma ask_target (f : Files) (l : Lookup) (file : Path) (name specifier : String) :
    (target l file name specifier).ask f = match goalOf f l file specifier with
      | some goal => (some goal, [])
      | none => (none, [missingAt l file name specifier]) := by
  simp only [target, Job.bind_eq, Job.ask_bind, Files.ask_script]
  rw [← goalOf]
  cases goalOf f l file specifier <;> rfl

/-- Looking for what a specifier stands for reads nothing. -/
lemma reads_target (f : Files) (l : Lookup) (file : Path) (name specifier : String) :
    (target l file name specifier).reads f = [] := by
  simp only [target, Job.bind_eq, Job.reads_bind, Files.reads_script, Files.ask_script]
  rw [← goalOf]
  cases goalOf f l file specifier <;> rfl

/-- Collecting what a file declares enters its contributions and finds its gaps, and leaves the
rest of the trail as it is. -/
lemma ask_collect (f : Files) (l : Lookup) (pageDir file : Path) (fields : Fields) (t : Trail) :
    (collect l pageDir file fields t).ask f =
      { t with
        inUse := t.inUse.insertAll (contributions f l pageDir file fields)
        findings := t.findings ++ gaps f l file fields } := by
  induction fields generalizing t with
  | nil => simp [collect, contributions, gaps, Using.insertAll]
  | cons d fields ih =>
    obtain ⟨name, value⟩ := d
    cases hs : value.string? with
    | none =>
      rw [collect, hs]
      simp [ih, contributions, gaps, referenceOf, hs]
    | some s =>
      by_cases hrel : Path.isRelativeSpecifier s = true
      · cases hgoal : goalOf f l file s with
        | none =>
          simp [collect, hs, hrel, ask_target, hgoal, ih, contributions, gaps, referenceOf,
            missingAt]
        | some goal =>
          simp [collect, hs, hrel, ask_target, hgoal, ih, contributions, gaps, referenceOf,
            Using.insertAll, Trail.add, Trail.enter]
      · simp [collect, hs, hrel, ih, contributions, gaps, referenceOf, Using.insertAll,
          Trail.enter]

/-- Collecting what a file declares reads nothing. -/
lemma reads_collect (f : Files) (l : Lookup) (pageDir file : Path) (fields : Fields) (t : Trail) :
    (collect l pageDir file fields t).reads f = [] := by
  induction fields generalizing t with
  | nil => rfl
  | cons d fields ih =>
    obtain ⟨name, value⟩ := d
    cases hs : value.string? with
    | none => simp [collect, hs, ih]
    | some s =>
      by_cases hrel : Path.isRelativeSpecifier s = true
      · cases hgoal : goalOf f l file s with
        | none => simp [collect, hs, hrel, ask_target, reads_target, hgoal, ih]
        | some goal => simp [collect, hs, hrel, ask_target, reads_target, hgoal, ih]
      · simp [collect, hs, hrel, ih]

/-! ### Searches that end -/

/-- The trail once a file is scanned: the file is met, and what it declares is collected. -/
def entered (f : Files) (l : Lookup) (pageDir file : Path) (scan : Scan) (t : Trail) : Trail :=
  (collect l pageDir file (scan.declared?.getD [])
    ((t.visit file).add (omissions l file scan.omitted))).ask f

/-- What is left to do: a file to follow, or components that a file uses. -/
inductive Errand where
  | visit (file : Path)
  | usages (file : Path) (us : List Usage)

/-- A search that ends: doing an errand takes one trail to another. -/
inductive Walks (f : Files) (l : Lookup) (pageDir : Path) : Errand → Trail → Trail → Prop where
  /-- A file that is still being followed closes a cycle. -/
  | cycle {file : Path} {t : Trail} {chain : List Path} (hon : t.since? file = some chain) :
      Walks f l pageDir (.visit file) t (t.add [cycleAt l t chain file])
  /-- A file that was met before is passed over. -/
  | seen {file : Path} {t : Trail} (hoff : t.since? file = none)
      (hseen : t.hasVisited file = true) : Walks f l pageDir (.visit file) t t
  /-- A file without a scan is met and left. -/
  | unscanned {file : Path} {t : Trail} {e : String} (hoff : t.since? file = none)
      (hnew : t.hasVisited file = false) (hscan : f.scan file = .error e) :
      Walks f l pageDir (.visit file) t ((t.visit file).add [.parseError (l.display file) e])
  /-- A file with a scan is met, and what it uses is followed. -/
  | scanned {file : Path} {t t' : Trail} {scan : Scan} (hoff : t.since? file = none)
      (hnew : t.hasVisited file = false) (hscan : f.scan file = .ok scan)
      (hdown : Walks f l pageDir (.usages file scan.usages)
        ((entered f l pageDir file scan t).push file) t') :
      Walks f l pageDir (.visit file) t t'.pop
  | nil {file : Path} {t : Trail} : Walks f l pageDir (.usages file []) t t
  /-- A package is passed over. -/
  | package {file : Path} {u : Usage} {us : List Usage} {t t' : Trail}
      (hrel : Path.isRelativeSpecifier u.specifier = false)
      (hrest : Walks f l pageDir (.usages file us) t t') :
      Walks f l pageDir (.usages file (u :: us)) t t'
  /-- A component without a file is found to be missing. -/
  | missing {file : Path} {u : Usage} {us : List Usage} {t t' : Trail}
      (hrel : Path.isRelativeSpecifier u.specifier = true)
      (hgoal : goalOf f l file u.specifier = none)
      (hrest : Walks f l pageDir (.usages file us)
        (t.add [missingAt l file u.name u.specifier]) t') :
      Walks f l pageDir (.usages file (u :: us)) t t'
  /-- A component with a file is followed, and then the others. -/
  | step {file goal : Path} {u : Usage} {us : List Usage} {t t' t'' : Trail}
      (hrel : Path.isRelativeSpecifier u.specifier = true)
      (hgoal : goalOf f l file u.specifier = some goal)
      (hfirst : Walks f l pageDir (.visit goal) t t')
      (hrest : Walks f l pageDir (.usages file us) t' t'') :
      Walks f l pageDir (.usages file (u :: us)) t t''

@[simp] lemma entered_stack (file : Path) (scan : Scan) (t : Trail) :
    (entered f l pageDir file scan t).stack = t.stack := by
  simp [entered, ask_collect]

@[simp] lemma entered_visited (file : Path) (scan : Scan) (t : Trail) :
    (entered f l pageDir file scan t).visited = file :: t.visited := by
  simp [entered, ask_collect]

@[simp] lemma entered_findings (file : Path) (scan : Scan) (t : Trail) :
    (entered f l pageDir file scan t).findings
      = t.findings ++ (omissions l file scan.omitted ++ gaps f l file (scan.declared?.getD [])) := by
  simp [entered, ask_collect]

@[simp] lemma entered_inUse (file : Path) (scan : Scan) (t : Trail) :
    (entered f l pageDir file scan t).inUse
      = t.inUse.insertAll (contributions f l pageDir file (scan.declared?.getD [])) := by
  simp [entered, ask_collect]

/-- An errand leaves the stack as it was, and only adds to the files met. -/
lemma Walks.frame {e : Errand} {t t' : Trail} (h : Walks f l pageDir e t t') :
    t'.stack = t.stack ∧ t.visited <:+ t'.visited := by
  induction h with
  | cycle => exact ⟨rfl, List.suffix_rfl⟩
  | seen => exact ⟨rfl, List.suffix_rfl⟩
  | unscanned => exact ⟨rfl, List.suffix_cons _ _⟩
  | scanned _ _ _ _ ih =>
    obtain ⟨hstack, hvisited⟩ := ih
    refine ⟨?_, ?_⟩
    · simp [hstack]
    · exact (List.suffix_cons _ _).trans (by simpa using hvisited)
  | nil => exact ⟨rfl, List.suffix_rfl⟩
  | package _ _ ih => exact ih
  | missing _ _ _ ih => exact ih
  | step _ _ _ _ ihfirst ihrest =>
    exact ⟨ihrest.1.trans ihfirst.1, ihfirst.2.trans ihrest.2⟩

/-- A search has one end only. -/
lemma Walks.unique {e : Errand} {t t₁ t₂ : Trail} (h₁ : Walks f l pageDir e t t₁)
    (h₂ : Walks f l pageDir e t t₂) : t₁ = t₂ := by
  induction h₁ generalizing t₂ with
  | cycle hon => cases h₂ <;> simp_all
  | seen hoff hseen => cases h₂ <;> simp_all
  | unscanned hoff hnew hscan => cases h₂ <;> simp_all
  | scanned hoff hnew hscan _ ih =>
    cases h₂ with
    | scanned _ _ hscan₂ hdown₂ =>
      rw [hscan] at hscan₂
      cases hscan₂
      rw [ih hdown₂]
    | _ => simp_all
  | nil =>
    cases h₂
    rfl
  | package hrel _ ih =>
    cases h₂ with
    | package _ hrest₂ => exact ih hrest₂
    | _ => simp_all
  | missing hrel hgoal _ ih =>
    cases h₂ with
    | missing _ _ hrest₂ => exact ih hrest₂
    | _ => simp_all
  | step hrel hgoal _ _ ihfirst ihrest =>
    cases h₂ with
    | step _ hgoal₂ hfirst₂ hrest₂ =>
      rw [hgoal] at hgoal₂
      cases hgoal₂
      rw [← ihfirst hfirst₂] at hrest₂
      exact ihrest hrest₂
    | _ => simp_all

/-! ### One component and one file -/

/-- The trail after one of the components that a file uses, by a given way to follow one: a package
is passed over, and a component without a file is found to be missing. -/
def tried (f : Files) (l : Lookup) (visit : Path → Trail → Job Trail) (file : Path) (u : Usage)
    (t : Trail) : Trail :=
  if Path.isRelativeSpecifier u.specifier then
    match goalOf f l file u.specifier with
    | some goal => (visit goal t).ask f
    | none => t.add [missingAt l file u.name u.specifier]
  else t

/-- The components that a file uses are followed one after another. -/
lemma ask_follow_cons (f : Files) (l : Lookup) (visit : Path → Trail → Job Trail) (file : Path)
    (u : Usage) (us : List Usage) (t : Trail) :
    (follow l visit file (u :: us) t).ask f
      = (follow l visit file us (tried f l visit file u t)).ask f := by
  by_cases hrel : Path.isRelativeSpecifier u.specifier = true
  · cases hgoal : goalOf f l file u.specifier with
    | none => simp [follow, tried, hrel, ask_target, hgoal]
    | some goal => simp [follow, tried, hrel, ask_target, hgoal, Trail.add]
  · simp [follow, tried, hrel]

/-- The trail that following a file leaves, by the way out that is taken. -/
inductive Exit (f : Files) (l : Lookup) (pageDir : Path) (depth : Nat) (file : Path) (t : Trail) :
    Trail → Prop where
  /-- The file is still being followed. -/
  | cycle {chain : List Path} (hon : t.since? file = some chain) :
      Exit f l pageDir depth file t (t.add [cycleAt l t chain file])
  /-- The file was met before. -/
  | seen (hoff : t.since? file = none) (hseen : t.hasVisited file = true) :
      Exit f l pageDir depth file t t
  /-- The file has no scan. -/
  | unscanned {e : String} (hoff : t.since? file = none) (hnew : t.hasVisited file = false)
      (hscan : f.scan file = .error e) :
      Exit f l pageDir depth file t ((t.visit file).add [.parseError (l.display file) e])
  /-- The file has a scan, and the components it uses are followed. -/
  | scanned {scan : Scan} (hoff : t.since? file = none) (hnew : t.hasVisited file = false)
      (hscan : f.scan file = .ok scan) :
      Exit f l pageDir depth file t
        ((follow l (component l pageDir depth) file scan.usages
          ((entered f l pageDir file scan t).push file)).ask f).pop

/-- At a depth that is not used up, following a file ends in one of these ways. -/
lemma exit_component (f : Files) (l : Lookup) (pageDir : Path) (depth : Nat) (file : Path)
    (t : Trail) :
    Exit f l pageDir depth file t ((component l pageDir (depth + 1) file t).ask f) := by
  cases hon : t.since? file with
  | some chain =>
    have heq : (component l pageDir (depth + 1) file t).ask f = t.add [cycleAt l t chain file] := by
      simp [component, hon]
    rw [heq]
    exact .cycle hon
  | none =>
    cases hseen : t.hasVisited file with
    | true =>
      have heq : (component l pageDir (depth + 1) file t).ask f = t := by
        simp [component, hon, hseen]
      rw [heq]
      exact .seen hon hseen
    | false =>
      cases hscan : f.scan file with
      | error e =>
        have heq : (component l pageDir (depth + 1) file t).ask f
            = (t.visit file).add [.parseError (l.display file) e] := by
          simp [component, hon, hseen, ask_scanned, hscan]
        rw [heq]
        exact .unscanned hon hseen hscan
      | ok scan =>
        have heq : (component l pageDir (depth + 1) file t).ask f
            = ((follow l (component l pageDir depth) file scan.usages
                ((entered f l pageDir file scan t).push file)).ask f).pop := by
          simp [component, hon, hseen, ask_scanned, hscan, entered]
        rw [heq]
        exact .scanned hon hseen hscan

/-! ### What every search keeps -/

/-- A relation between a trail and what a search makes of it: it holds across every step, and so
across a whole search (`KeptBySearch.component`). -/
structure KeptBySearch (f : Files) (l : Lookup) (pageDir : Path) (R : Trail → Trail → Prop) :
    Prop where
  refl : ∀ t, R t t
  trans : ∀ {t t' t'' : Trail}, R t t' → R t' t'' → R t t''
  missing : ∀ t file name specifier, R t (t.add [missingAt l file name specifier])
  cycle : ∀ t chain file, R t (t.add [cycleAt l t chain file])
  unscanned : ∀ t file e, R t ((t.visit file).add [.parseError (l.display file) e])
  /-- A file is followed, and left again. -/
  scanned : ∀ t t' file scan, R ((entered f l pageDir file scan t).push file) t' → R t t'.pop

namespace KeptBySearch

variable {R : Trail → Trail → Prop} (h : KeptBySearch f l pageDir R)
include h

/-- It holds across one component that a file uses, if it holds across following one. -/
lemma tried {visit : Path → Trail → Job Trail} (hvisit : ∀ goal t, R t ((visit goal t).ask f))
    (file : Path) (u : Usage) (t : Trail) : R t (tried f l visit file u t) := by
  unfold Resolve.tried
  split
  · split
    · exact hvisit _ t
    · exact h.missing t file u.name u.specifier
  · exact h.refl t

/-- It holds across the components that a file uses, if it holds across following one. -/
lemma follow {visit : Path → Trail → Job Trail} (hvisit : ∀ goal t, R t ((visit goal t).ask f))
    (file : Path) (us : List Usage) (t : Trail) : R t ((follow l visit file us t).ask f) := by
  induction us generalizing t with
  | nil => exact h.refl t
  | cons u us ih =>
    rw [ask_follow_cons]
    exact h.trans (h.tried hvisit file u t) (ih _)

/-- It holds across following a file, to whatever depth. -/
lemma component (depth : Nat) (file : Path) (t : Trail) :
    R t ((component l pageDir depth file t).ask f) := by
  induction depth generalizing file t with
  | zero => exact h.refl t
  | succ depth ih =>
    have hexit := exit_component f l pageDir depth file t
    generalize (Resolve.component l pageDir (depth + 1) file t).ask f = t' at hexit ⊢
    cases hexit with
    | cycle => exact h.cycle t _ file
    | seen => exact h.refl t
    | unscanned => exact h.unscanned t file _
    | scanned => exact h.scanned t _ file _ (h.follow ih file _ _)

end KeptBySearch

/-! ### Depth -/

/-- How many of the files known have not been met. -/
def unvisited (known : List Path) (t : Trail) : Nat := known.countP fun p => !t.hasVisited p

/-- The more files are met, the fewer are left. -/
lemma unvisited_le {known : List Path} {t t' : Trail} (h : t.visited <:+ t'.visited) :
    unvisited known t' ≤ unvisited known t := by
  refine List.countP_mono_left fun p _ hp => ?_
  rw [Bool.not_eq_true', Bool.eq_false_iff] at hp ⊢
  intro hseen
  exact hp (Trail.hasVisited_iff.mpr ((Trail.hasVisited_iff.mp hseen).mono fun q hq => h.subset hq))

/-- Meeting a file that is known leaves one file less. -/
lemma unvisited_visit_lt {known : List Path} {t : Trail} {file : Path}
    (hknown : Path.Among known file) (hnew : t.hasVisited file = false) :
    unvisited known (t.visit file) < unvisited known t := by
  obtain ⟨q, hq, hsame⟩ := hknown
  have hbefore : t.hasVisited q = false := by
    rw [Bool.eq_false_iff] at hnew ⊢
    intro hseen
    exact hnew (Trail.hasVisited_iff.mpr ((Trail.hasVisited_iff.mp hseen).congr hsame))
  have hafter : (t.visit file).hasVisited q = true :=
    Trail.hasVisited_iff.mpr (Path.among_cons.mpr (Or.inl (Path.same_symm hsame)))
  have hmono : ∀ ps, unvisited ps (t.visit file) ≤ unvisited ps t :=
    fun ps => unvisited_le (List.suffix_cons _ _)
  obtain ⟨as, bs, rfl⟩ := List.append_of_mem hq
  have has := hmono as
  have hbs := hmono bs
  simp only [unvisited, List.countP_append, List.countP_cons, hbefore, hafter] at has hbs ⊢
  simp only [Bool.not_true, Bool.not_false, Bool.false_eq_true, if_false, if_true]
  omega

/-- Following the components of a file does what the relation says, if following each one does. -/
lemma walks_follow (known : List Path) {visit : Path → Trail → Job Trail} {n : Nat} {file : Path}
    {us : List Usage} {t : Trail}
    (hvisit : ∀ u ∈ us, Path.isRelativeSpecifier u.specifier = true → ∀ goal,
      goalOf f l file u.specifier = some goal → ∀ t, unvisited known t ≤ n →
        Walks f l pageDir (.visit goal) t ((visit goal t).ask f))
    (hn : unvisited known t ≤ n) :
    Walks f l pageDir (.usages file us) t ((follow l visit file us t).ask f) := by
  induction us generalizing t with
  | nil => exact .nil
  | cons u us ih =>
    have ih' := fun {t : Trail} => ih (t := t) fun v hv => hvisit v (List.mem_cons_of_mem u hv)
    rw [ask_follow_cons, tried]
    by_cases hrel : Path.isRelativeSpecifier u.specifier = true
    · rw [if_pos hrel]
      cases hgoal : goalOf f l file u.specifier with
      | none => exact .missing hrel hgoal (ih' hn)
      | some goal =>
        have hfirst := hvisit u (by simp) hrel goal hgoal t hn
        exact .step hrel hgoal hfirst (ih' (Nat.le_trans (unvisited_le hfirst.frame.2) hn))
    · rw [if_neg hrel]
      exact .package (by simpa using hrel) (ih' hn)

/-- Where all files that can be met are known, a depth above the number of those that have not been
met yet is never reached. -/
lemma walks_component {known : List Path} (meets : Path → Prop)
    (hmeets : ∀ p q, meets p → Uses f l p q → meets q)
    (hknown : ∀ p, meets p → Path.Among known p) (depth : Nat) {file : Path} {t : Trail}
    (hfile : meets file) (hdepth : unvisited known t < depth) :
    Walks f l pageDir (.visit file) t ((component l pageDir depth file t).ask f) := by
  induction depth generalizing file t with
  | zero => exact absurd hdepth (Nat.not_lt_zero _)
  | succ depth ih =>
    have hexit := exit_component f l pageDir depth file t
    generalize (component l pageDir (depth + 1) file t).ask f = t' at hexit ⊢
    cases hexit with
    | cycle hon => exact .cycle hon
    | seen hoff hseen => exact .seen hoff hseen
    | unscanned hoff hnew hscan => exact .unscanned hoff hnew hscan
    | @scanned scan hoff hnew hscan =>
      refine .scanned hoff hnew hscan ?_
      have hless : unvisited known ((entered f l pageDir file scan t).push file) < depth := by
        have hlt := unvisited_visit_lt (hknown file hfile) hnew
        have hsame : unvisited known ((entered f l pageDir file scan t).push file)
            = unvisited known (t.visit file) := by
          simp [unvisited, Trail.hasVisited]
        omega
      refine walks_follow known (n := depth - 1) ?_ (by omega)
      intro u hu hrel goal hgoal t' ht'
      exact ih (hmeets file goal hfile ⟨scan, hscan, u, hu, hrel, hgoal⟩) (by omega)

/-! ### What is read -/

/-- The files met are a log of what is read, if following each component keeps one. -/
lemma visited_follow {visit : Path → Trail → Job Trail} {file : Path}
    (hvisit : ∀ goal t, ((visit goal t).ask f).visited
      = ((visit goal t).reads f).reverse ++ t.visited)
    (us : List Usage) (t : Trail) :
    ((follow l visit file us t).ask f).visited
      = ((follow l visit file us t).reads f).reverse ++ t.visited := by
  induction us generalizing t with
  | nil => rfl
  | cons u us ih =>
    by_cases hrel : Path.isRelativeSpecifier u.specifier = true
    · cases hgoal : goalOf f l file u.specifier with
      | none => simp [follow, hrel, ask_target, reads_target, hgoal, ih]
      | some goal => simp [follow, hrel, ask_target, reads_target, hgoal, ih, hvisit]
    · simp [follow, hrel, ih]

/-- The files met are a log of what is read, the last one first. -/
lemma visited_component (depth : Nat) (file : Path) (t : Trail) :
    ((component l pageDir depth file t).ask f).visited
      = ((component l pageDir depth file t).reads f).reverse ++ t.visited := by
  induction depth generalizing file t with
  | zero => rfl
  | succ depth ih =>
    cases hon : t.since? file with
    | some chain => simp [component, hon]
    | none =>
      cases hseen : t.hasVisited file with
      | true => simp [component, hon, hseen]
      | false =>
        cases hscan : f.scan file with
        | error e => simp [component, hon, hseen, ask_scanned, reads_scanned, hscan]
        | ok scan =>
          simp [component, hon, hseen, ask_scanned, reads_scanned, hscan, ask_collect,
            reads_collect, visited_follow ih]

/-! ### Pages -/

/-- The trail that the search for a page starts with. -/
def startTrail (l : Lookup) (file : Path) (scan : Scan) (before : List Finding) : Trail :=
  ⟨[file], [], .ofDeclared scan.declared?, before ++ omissions l file scan.omitted⟩

/-- All files that a page uses, directly or through others, are among those known. -/
def Covers (f : Files) (l : Lookup) (page : Path) (known : List Path) : Prop :=
  ∀ p, Relation.TransGen (Uses f l) page p → Path.Among known p

/-- A list of all files covers every page. -/
lemma covers_of_isFile {page : Path} {known : List Path}
    (h : ∀ p, f.isFile p = true → Path.Among known p) : Covers f l page known := by
  intro p hp
  obtain ⟨q, -, hstep⟩ := Relation.TransGen.tail'_iff.mp hp
  exact h p hstep.isFile

/-- Where all files that a page uses are known, the search for it ends; and at every depth above
their number, the job does what the search does, and the files met are a log of what it reads after
the page. -/
lemma walks_page {page : Path} {scan : Scan} {known : List Path}
    (hscan : f.scan page = .ok scan) (hknown : Covers f l page known) (before : List Finding) :
    ∃ t, Walks f l page.parent (.usages page scan.usages) (startTrail l page scan before) t ∧
      ∀ depth, known.length < depth →
        (Resolve.page l depth page before).ask f
          = (some (t.inUse.into scan.config), t.findings) ∧
        (Resolve.page l depth page before).reads f = page :: t.visited.reverse := by
  set start := startTrail l page scan before with hstart
  let search (depth : Nat) := follow l (component l page.parent depth) page scan.usages start
  have hwalks : ∀ depth, known.length < depth →
      Walks f l page.parent (.usages page scan.usages) start ((search depth).ask f) := by
    intro depth hdepth
    refine walks_follow known (n := known.length) ?_ List.countP_le_length
    intro u hu hrel goal hgoal t ht
    refine walks_component (Relation.TransGen (Uses f l) page) ?_ hknown depth ?_
      (Nat.lt_of_le_of_lt ht hdepth)
    · exact fun p q hp hstep => hp.tail hstep
    · exact .single ⟨scan, hscan, u, hu, hrel, hgoal⟩
  refine ⟨(search (known.length + 1)).ask f, hwalks _ (Nat.lt_succ_self _), ?_⟩
  intro depth hdepth
  have hend : (search (known.length + 1)).ask f = (search depth).ask f :=
    (hwalks _ (Nat.lt_succ_self _)).unique (hwalks depth hdepth)
  have hvisited : ((search depth).ask f).visited = ((search depth).reads f).reverse := by
    have h : ((search depth).ask f).visited = ((search depth).reads f).reverse ++ start.visited :=
      visited_follow (visited_component depth) scan.usages _
    simpa [hstart, startTrail] using h
  rw [hend, hvisited, List.reverse_reverse]
  refine ⟨?_, ?_⟩
  · simp [Resolve.page, ask_scanned, hscan, search, hstart, startTrail]
  · simp [Resolve.page, ask_scanned, reads_scanned, hscan, search, hstart, startTrail]

end PageConfig.Resolve
