import PageConfig.Proofs.Path.Beside
import PageConfig.Proofs.Project.Plan
import PageConfig.Proofs.Resolve.Respell

/-!
# What a migration overwrites

The artifact of a source goes beside it, under a name that says of the extension
only whether the source has types.  So a migration can write one file twice.  It
can do so with different texts in three ways only (`Clash`): two pages are
twins, a page is a twin of the entry or the entry itself, or a source beside the
package file has the stem of the compiler config.  A page that is listed twice
is written with the same text both times (`text_eq_of_same`).
-/

namespace PageConfig.Project

open PageConfig.Extract (Scan)

variable {c : Context} {depth : Nat} {f : Files}

/-! ### Who writes -/

/-- The artifact of the entry, if the entry has a scan. -/
def Context.entryArtifact (c : Context) (f : Files) : Option Artifact :=
  (f.script c.platform c.entryPath).bind fun file =>
    (f.scan file).toOption.map fun scan => .ofSource file scan.config

/-- Everything planned for the app is the artifact of a page or of the entry. -/
lemma exists_artifact_of_mem_appPlan {call : Path × String} (hcall : call ∈ c.appPlan depth f) :
    ∃ entry, c.entryArtifact f = some entry ∧
      ∃ x ∈ c.pageArtifacts depth f ++ [entry], call = x.call := by
  cases hfile : f.script c.platform c.entryPath with
  | none => simp [appPlan_of_missing hfile] at hcall
  | some file =>
    cases hscan : f.scan file with
    | error e => simp [appPlan_of_error hfile hscan] at hcall
    | ok scan =>
      rw [appPlan_of_ok hfile hscan] at hcall
      obtain ⟨x, hx, rfl⟩ := List.mem_map.mp hcall
      refine ⟨Artifact.ofSource file scan.config, ?_, x, hx, rfl⟩
      simp [Context.entryArtifact, hfile, hscan, Except.toOption]

/-- Everything a migration tries to write is the compiler config, or the artifact of a page or of
the entry. -/
lemma call_cases {σ : Type} {m : Store σ} {s : σ} {a : Attempt}
    (ha : a ∈ (m.run (migrate c depth) s).attempts) :
    let compiler := c.compilerCall (m.files s)
    let f := m.files (m.after s compiler.1 compiler.2)
    a.call = compiler ∨ ∃ entry, c.entryArtifact f = some entry ∧
      ∃ x ∈ c.pageArtifacts depth f ++ [entry], a.call = x.call := by
  intro compiler f
  have hplan : a.call ∈ c.plan depth m s :=
    (follows_migrate m c depth s).map_call_prefix_plan.subset (List.mem_map_of_mem ha)
  unfold Context.plan at hplan
  split at hplan
  · exact (List.mem_cons.mp hplan).imp_right exists_artifact_of_mem_appPlan
  · cases hplan

/-- The artifact of a page is that of its file, with the config that the file gets as a page. -/
lemma exists_file_of_mem_pageArtifacts {x : Artifact} (hx : x ∈ c.pageArtifacts depth f) :
    ∃ page file config, f.script c.platform (c.pagePath page) = some file ∧
      Resolve.configAlone f c.lookup depth file = some config ∧ x = .ofSource file config := by
  obtain ⟨page, -, hpage⟩ := List.mem_filterMap.mp hx
  obtain ⟨file, htaken, hartifact⟩ := Option.bind_eq_some_iff.mp hpage
  obtain ⟨config, hconfig, rfl⟩ := Option.map_eq_some_iff.mp hartifact
  refine ⟨page, file, config, ?_, hconfig, rfl⟩
  unfold fateOf at htaken
  cases hscript : f.script c.platform (c.pagePath page) with
  | none => simp [hscript, Fate.taken?] at htaken
  | some file' =>
    simp only [hscript] at htaken
    split at htaken
    · cases htaken
    · split at htaken
      · cases htaken
      · exact htaken

/-- Artifacts of pages whose files are the same have the same text. -/
lemma text_eq_of_same {x y : Artifact} (hx : x ∈ c.pageArtifacts depth f)
    (hy : y ∈ c.pageArtifacts depth f) (hsame : x.source.same y.source = true) :
    x.text = y.text := by
  obtain ⟨_, p, config, hp, hconfig, rfl⟩ := exists_file_of_mem_pageArtifacts hx
  obtain ⟨_, q, config', hq, hconfig', rfl⟩ := exists_file_of_mem_pageArtifacts hy
  have hconfigs : Resolve.configAlone f c.lookup depth p = Resolve.configAlone f c.lookup depth q :=
    Resolve.configAlone_congr hsame (Or.inl (Files.isFile_of_script hp))
      (Or.inl (Files.isFile_of_script hq)) depth
  rw [hconfig, hconfig'] at hconfigs
  obtain rfl := Option.some.inj hconfigs
  rfl

/-- The artifacts of an app go beside their sources. -/
lemma output_eq {entry x : Artifact} (hentry : c.entryArtifact f = some entry)
    (hx : x ∈ c.pageArtifacts depth f ++ [entry]) : x.output = x.source.artifact := by
  rcases List.mem_append.mp hx with hpage | hlast
  · obtain ⟨page, file, config, -, -, rfl⟩ := exists_file_of_mem_pageArtifacts hpage
    rfl
  · obtain rfl := List.mem_singleton.mp hlast
    obtain ⟨file, -, hscan⟩ := Option.bind_eq_some_iff.mp hentry
    obtain ⟨scan, -, rfl⟩ := Option.map_eq_some_iff.mp hscan
    rfl

/-! ### Clashes -/

/-- Two writes of a migration to one file, in the order in which they are made, given the call for
the compiler config and the artifacts of the pages and of the entry. -/
inductive Clash (c : Context) (compiler : Path × String) (pages : List Artifact)
    (entry : Artifact) : Path × String → Path × String → Prop where
  /-- Two pages with different files that are twins. -/
  | pages {x y : Artifact} (hx : x ∈ pages) (hy : y ∈ pages)
      (hapart : ¬ x.source.same y.source = true) (htwins : x.source.Twins y.source) :
      Clash c compiler pages entry x.call y.call
  /-- A page that is the entry or a twin of it. -/
  | entry {x : Artifact} (hx : x ∈ pages) (htwins : x.source.Twins entry.source) :
      Clash c compiler pages entry x.call entry.call
  /-- The compiler config, and the artifact of an untyped source named like it in the directory of
  the project. -/
  | compiler {x : Artifact} (hx : x ∈ pages ++ [entry])
      (hfolder : x.source.folder.steps = c.appRoot.steps) (hstem : x.source.stem = "babel")
      (htyped : x.source.isTyped = false) : Clash c compiler pages entry compiler x.call

/-- Artifacts that go to one file have twins as their sources. -/
lemma twins_of_same {entry x y : Artifact} (hentry : c.entryArtifact f = some entry)
    (hx : x ∈ c.pageArtifacts depth f ++ [entry]) (hy : y ∈ c.pageArtifacts depth f ++ [entry])
    (hsame : x.output.same y.output = true) : x.source.Twins y.source := by
  have hsteps := Path.steps_congr hsame
  rw [output_eq hentry hx, output_eq hentry hy] at hsteps
  exact Path.steps_artifact_iff.mp hsteps

/-- An artifact that goes to the file of the compiler config clashes with it. -/
lemma clash_compiler {g : Files} {entry x : Artifact} (hentry : c.entryArtifact f = some entry)
    (hx : x ∈ c.pageArtifacts depth f ++ [entry])
    (hsame : (c.compilerCall g).1.same x.output = true) :
    Clash c (c.compilerCall g) (c.pageArtifacts depth f) entry (c.compilerCall g) x.call := by
  have hname : Path.IsName (Path.configName "babel" false) :=
    Path.isName_configName (by decide) false
  have hhead : (⟨compilerFile⟩ : Path).text.toList.head? ≠ some '/' := by decide
  have hfile : (⟨compilerFile⟩ : Path).steps = [.name (Path.configName "babel" false)] :=
    hname.steps
  have hsteps := Path.steps_congr hsame
  rw [output_eq hentry hx, Context.compilerCall, Path.steps_join hhead, hfile] at hsteps
  obtain ⟨hfolder, hstem, htyped⟩ := Path.steps_artifact_eq.mp hsteps.symm
  exact .compiler hx hfolder hstem htyped

/-- Artifacts with different texts that go to one file clash, one way or the other. -/
lemma clash_artifacts {compiler : Path × String} {entry x y : Artifact}
    (hentry : c.entryArtifact f = some entry) (hx : x ∈ c.pageArtifacts depth f ++ [entry])
    (hy : y ∈ c.pageArtifacts depth f ++ [entry]) (hsame : x.output.same y.output = true)
    (htext : x.text ≠ y.text) :
    Clash c compiler (c.pageArtifacts depth f) entry x.call y.call ∨
      Clash c compiler (c.pageArtifacts depth f) entry y.call x.call := by
  have htwins := twins_of_same hentry hx hy hsame
  rcases List.mem_append.mp hx with hxpage | hxentry
  · rcases List.mem_append.mp hy with hypage | hyentry
    · exact Or.inl (.pages hxpage hypage (fun h => htext (text_eq_of_same hxpage hypage h)) htwins)
    · obtain rfl := List.mem_singleton.mp hyentry
      exact Or.inl (.entry hxpage htwins)
  · obtain rfl := List.mem_singleton.mp hxentry
    rcases List.mem_append.mp hy with hypage | hyentry
    · exact Or.inr (.entry hypage htwins.symm)
    · obtain rfl := List.mem_singleton.mp hyentry
      exact absurd rfl htext

/-! ### What is overwritten -/

/-- **A migration overwrites its own files only where they clash.**  On every store and from every
state, take two writes of a migration to one path with different texts.  Then the app has an entry
with a scan, and one of the writes clashes with the other: they are the artifacts of two pages whose
files are different and twins, or those of a page and of the entry that are twins or the same file,
or the compiler config and the artifact of an untyped source with the stem `babel` in the directory
of the project. -/
theorem overwrites_only_where_clashing {σ : Type} (m : Store σ) (c : Context) (depth : Nat) (s : σ)
    (a b : Attempt) (ha : a ∈ (m.run (migrate c depth) s).attempts)
    (hb : b ∈ (m.run (migrate c depth) s).attempts) (hpath : a.path.same b.path = true)
    (htext : a.text ≠ b.text) :
    let compiler := c.compilerCall (m.files s)
    let f := m.files (m.after s compiler.1 compiler.2)
    ∃ entry, c.entryArtifact f = some entry ∧
      (Clash c compiler (c.pageArtifacts depth f) entry a.call b.call ∨
        Clash c compiler (c.pageArtifacts depth f) entry b.call a.call) := by
  intro compiler f
  have hcall : ∀ {x : Attempt} {call : Path × String}, x.call = call →
      x.path = call.1 ∧ x.text = call.2 := by
    rintro x call rfl
    exact ⟨rfl, rfl⟩
  rcases call_cases ha with hacall | ⟨entry, hentry, x, hx, hacall⟩
  · obtain ⟨hapath, hatext⟩ := hcall hacall
    rcases call_cases hb with hbcall | ⟨entry, hentry, y, hy, hbcall⟩
    · obtain ⟨-, hbtext⟩ := hcall hbcall
      exact absurd (hatext.trans hbtext.symm) htext
    · obtain ⟨hbpath, -⟩ := hcall hbcall
      rw [hapath, hbpath] at hpath
      refine ⟨entry, hentry, Or.inl ?_⟩
      rw [hacall, hbcall]
      exact clash_compiler hentry hy hpath
  · obtain ⟨hapath, hatext⟩ := hcall hacall
    refine ⟨entry, hentry, ?_⟩
    rcases call_cases hb with hbcall | ⟨entry', hentry', y, hy, hbcall⟩
    · obtain ⟨hbpath, -⟩ := hcall hbcall
      rw [hapath, hbpath] at hpath
      rw [hacall, hbcall]
      exact Or.inr (clash_compiler hentry hx (Path.same_symm hpath))
    · obtain rfl : entry = entry' := Option.some.inj (hentry.symm.trans hentry')
      obtain ⟨hbpath, hbtext⟩ := hcall hbcall
      rw [hapath, hbpath] at hpath
      rw [hatext, hbtext] at htext
      rw [hacall, hbcall]
      exact clash_artifacts hentry hx hy hpath htext

/-- A disk with an app that lists two scripts as pages that differ in their extensions. -/
def twinDisk : Disk where
  entries := [
    (["package.json"], .file (.text "")),
    (["app.js"], .file (.text "class A\x7bconfig=\x7bpages:['a.js','a.jsx']\x7d\x7d")),
    (["a.js"], .file (.text "class A\x7bconfig=\x7bx:1\x7d\x7d")),
    (["a.jsx"], .file (.text "class A\x7bconfig=\x7bx:2\x7d\x7d"))]
  home := []

/-- What the migration of that disk writes for the first page, and what it writes for the second. -/
def twinAttempts : Attempt × Attempt :=
  (⟨⟨"/a.config.js"⟩, "export default \x7b\n  \"x\": 1\n\x7d", .ok ()⟩,
    ⟨⟨"/a.config.js"⟩, "export default \x7b\n  \"x\": 2\n\x7d", .ok ()⟩)

/-- The migration of that disk makes both writes. -/
lemma twinAttempts_mem :
    twinAttempts.1 ∈ (Disk.store.run (migrate medleyContext 5) twinDisk).attempts ∧
      twinAttempts.2 ∈ (Disk.store.run (migrate medleyContext 5) twinDisk).attempts := by
  decide +kernel

/-- The two writes clash. -/
theorem overwrites_only_where_clashing_twin :
    let compiler := medleyContext.compilerCall twinDisk.answers
    let f := (Disk.store.after twinDisk compiler.1 compiler.2).answers
    ∃ entry, medleyContext.entryArtifact f = some entry ∧
      (Clash medleyContext compiler (medleyContext.pageArtifacts 5 f) entry twinAttempts.1.call
          twinAttempts.2.call ∨
        Clash medleyContext compiler (medleyContext.pageArtifacts 5 f) entry twinAttempts.2.call
          twinAttempts.1.call) :=
  overwrites_only_where_clashing Disk.store medleyContext 5 twinDisk twinAttempts.1 twinAttempts.2
    twinAttempts_mem.1 twinAttempts_mem.2 (by decide) (by decide)

/-- **A config can be overwritten.**  The migration comes to its end, and writes two different texts
to one path. -/
theorem twin_overwritten :
    (∃ outcome, (Disk.store.run (migrate medleyContext 5) twinDisk).result = .ok outcome) ∧
      ∃ a ∈ (Disk.store.run (migrate medleyContext 5) twinDisk).attempts,
        ∃ b ∈ (Disk.store.run (migrate medleyContext 5) twinDisk).attempts,
          a.path = b.path ∧ a.text ≠ b.text := by
  have haccepted : ((Disk.store.run (migrate medleyContext 5) twinDisk).attempts.all
      fun a => a.answer = .ok ()) = true := by decide +kernel
  have hfollows := follows_migrate Disk.store medleyContext 5 twinDisk
  refine ⟨?_, twinAttempts.1, twinAttempts_mem.1, twinAttempts.2, twinAttempts_mem.2, rfl,
    by decide⟩
  rw [← faultOf_eq_none, hfollows.fault_eq_none_iff]
  simpa using haccepted

end PageConfig.Project
