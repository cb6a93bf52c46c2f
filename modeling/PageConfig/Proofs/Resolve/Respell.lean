import PageConfig.Proofs.Resolve.Independent

/-!
# Spellings of a page

The config of a page does not depend on how its path is spelled.  A search that
starts from another spelling of the page looks for the same files, and since
files are compared by their components it goes the same way; only the paths
shown in its findings can differ (`Trail.Alike`).
-/

namespace PageConfig.Resolve

open PageConfig.Extract (Scan Usage)
open PageConfig.Json (Fields)

variable {f : Files} {l : Lookup} {pageDir pageDir' : Path} {t u : Trail}

/-! ### References -/

/-- A page names a file in the same way from the same directory, however that is spelled. -/
lemma moduleReference_parent_congr {p q : Path} (h : p.same q = true) :
    Path.moduleReference p.parent = Path.moduleReference q.parent := by
  have hsettle : Path.settle p.parent.components = Path.settle q.parent.components := by
    rw [← Path.settle_filter, ← Path.settle_filter q.parent.components, ← Path.steps, ← Path.steps,
      Path.steps_parent, Path.steps_parent, Path.steps_congr h]
  funext goal
  rw [Path.moduleReference, Path.moduleReference, Path.relative, Path.relative, hsettle]

/-- So a file contributes the same. -/
lemma contributions_congr (h : Path.moduleReference pageDir = Path.moduleReference pageDir')
    (file : Path) (fields : Fields) :
    contributions f l pageDir file fields = contributions f l pageDir' file fields := by
  have hreference : referenceOf f l pageDir file = referenceOf f l pageDir' file := by
    funext v
    rw [referenceOf, referenceOf, h]
  rw [contributions, contributions, hreference]

/-! ### Trails -/

/-- Trails that differ at most in what was found and in how the files on the stack are spelled. -/
structure Trail.Alike (t u : Trail) : Prop where
  stack : t.stack.map Path.components = u.stack.map Path.components
  visited : t.visited = u.visited
  inUse : t.inUse = u.inUse

namespace Trail.Alike

lemma add (h : t.Alike u) (xs ys : List Finding) : (t.add xs).Alike (u.add ys) :=
  ⟨h.stack, h.visited, h.inUse⟩

lemma visit (h : t.Alike u) (file : Path) : (t.visit file).Alike (u.visit file) :=
  ⟨h.stack, congrArg (file :: ·) h.visited, h.inUse⟩

lemma push (h : t.Alike u) (file : Path) : (t.push file).Alike (u.push file) := by
  refine ⟨?_, h.visited, h.inUse⟩
  rw [push_stack, push_stack, List.map_append, List.map_append, h.stack]

lemma pop (h : t.Alike u) : t.pop.Alike u.pop := by
  refine ⟨?_, h.visited, h.inUse⟩
  rw [pop_stack, pop_stack, List.map_dropLast, List.map_dropLast, h.stack]

/-- A file is being followed on both trails or on none. -/
lemma since?_eq_none (h : t.Alike u) (file : Path) :
    t.since? file = none ↔ u.since? file = none := by
  have hmem : ∀ ps : List Path, Path.Among ps file ↔ file.components ∈ ps.map Path.components := by
    intro ps
    simp [Path.Among, Path.same_iff]
  rw [Trail.since?_eq_none, Trail.since?_eq_none, hmem, hmem, h.stack]

lemma hasVisited_eq (h : t.Alike u) (file : Path) : t.hasVisited file = u.hasVisited file := by
  rw [hasVisited, hasVisited, h.visited]

end Trail.Alike

/-! ### Searches -/

/-- Collecting what a file declares leaves trails alike. -/
lemma alike_collect (hdir : Path.moduleReference pageDir = Path.moduleReference pageDir')
    (h : t.Alike u) (file : Path) (fields : Fields) :
    ((collect l pageDir file fields t).ask f).Alike ((collect l pageDir' file fields u).ask f) := by
  rw [ask_collect, ask_collect]
  refine ⟨h.stack, h.visited, ?_⟩
  simp only [h.inUse, contributions_congr hdir]

/-- Following components leaves trails alike, if following one does. -/
lemma alike_follow {visit visit' : Path → Trail → Job Trail}
    (hvisit : ∀ goal t u, t.Alike u → ((visit goal t).ask f).Alike ((visit' goal u).ask f))
    {file file' : Path} (hsame : file.same file' = true) (us : List Usage) (h : t.Alike u) :
    ((follow l visit file us t).ask f).Alike ((follow l visit' file' us u).ask f) := by
  induction us generalizing t u with
  | nil => exact h
  | cons v us ih =>
    by_cases hrel : Path.isRelativeSpecifier v.specifier = true
    · have hgoals : goalOf f l file v.specifier = goalOf f l file' v.specifier :=
        goalOf_congr hsame hrel
      cases hgoal : goalOf f l file' v.specifier with
      | none =>
        simp only [follow, hrel, if_true, Job.bind_eq, Job.ask_bind, ask_target, hgoals, hgoal]
        exact ih (h.add _ _)
      | some goal =>
        simp only [follow, hrel, if_true, Job.bind_eq, Job.ask_bind, ask_target, hgoals, hgoal]
        exact ih (hvisit goal _ _ (h.add _ _))
    · simp only [follow, hrel]
      exact ih h

/-- Following a component leaves trails alike. -/
lemma alike_component (hdir : Path.moduleReference pageDir = Path.moduleReference pageDir')
    (depth : Nat) (file : Path) (t u : Trail) (h : t.Alike u) :
    ((component l pageDir depth file t).ask f).Alike
      ((component l pageDir' depth file u).ask f) := by
  induction depth generalizing file t u with
  | zero => exact h
  | succ depth ih =>
    have hnone := h.since?_eq_none file
    cases hon : t.since? file with
    | some chain =>
      obtain ⟨chain', hon'⟩ : ∃ chain', u.since? file = some chain' := by
        cases hon' : u.since? file with
        | some chain' => exact ⟨chain', rfl⟩
        | none => simp [hon, hon'] at hnone
      simp only [component, hon, hon']
      exact h.add _ _
    | none =>
      have hon' := hnone.mp hon
      have hvisited := h.hasVisited_eq file
      cases hseen : u.hasVisited file with
      | true =>
        simp only [component, hon, hon', hvisited, hseen, if_true]
        exact h
      | false =>
        simp only [component, hon, hon', hvisited, hseen, Bool.false_eq_true, if_false, Job.bind_eq,
          Job.ask_bind, ask_scanned]
        cases f.scan file with
        | error e => exact (h.visit file).add _ _
        | ok scan =>
          simp only [Job.ask_bind, Job.pure_eq, Job.ask_done]
          have hentered : (entered f l pageDir file scan t).Alike
              (entered f l pageDir' file scan u) :=
            alike_collect hdir ((h.visit file).add _ _) file (scan.declared?.getD [])
          exact (alike_follow ih (Path.same_refl file) scan.usages (hentered.push file)).pop

/-- **The config of a page does not depend on how the page is spelled.** -/
theorem configAlone_congr {p q : Path} (h : p.same q = true) (hp : f.Found p) (hq : f.Found q)
    (depth : Nat) : configAlone f l depth p = configAlone f l depth q := by
  have hscans : f.scan p = f.scan q := Files.scan_congr h hp hq
  rw [configAlone, configAlone]
  cases hscan : f.scan q with
  | error e =>
    rw [hscan] at hscans
    rw [ask_page_of_error hscans, ask_page_of_error hscan]
  | ok scan =>
    rw [hscan] at hscans
    have hstart : (startTrail l p scan []).Alike (startTrail l q scan []) := by
      refine ⟨?_, rfl, rfl⟩
      simpa [startTrail] using Path.same_iff.mp h
    have hend : (searched f l depth p scan []).Alike (searched f l depth q scan []) :=
      alike_follow (alike_component (moduleReference_parent_congr h) depth) h scan.usages hstart
    rw [ask_page_of_ok hscans, ask_page_of_ok hscan, hend.inUse]

end PageConfig.Resolve
