import PageConfig.Proofs.Disk.Writes
import PageConfig.Proofs.Project.Fates

/-!
# The plan of a migration

Before a migration writes anything for the app it has worked out everything it
is going to write.  Its *plan* is the compiler config, then the artifacts of the
pages in the order of the page list, then the artifact of the entry.  `Follows`
says how writes go along a plan, up to the first that is refused, and a
migration follows its plan on every store, whatever writes are refused there
(`migrate_follows_plan`).  All files of a plan have the names of config files,
so no others are touched; on a disk, everything under another name is as it was
(`at?_run_migrate`).
-/

namespace PageConfig.Project

open PageConfig.Extract (Scan)

/-! ### Following a plan -/

/-- Writes that are tried along a plan, in order, until one is refused; and the fault in which
that ends, if it does. -/
inductive Follows : List (Path × String) → List Attempt → Option WriteFault → Prop where
  /-- The plan is through. -/
  | done : Follows [] [] none
  /-- A write is refused, and the rest of the plan is dropped. -/
  | refused (p : Path) (text : String) (rest : List (Path × String)) (r : Refusal) :
      Follows ((p, text) :: rest) [⟨p, text, .error r⟩] (some ⟨p, r⟩)
  /-- A write is accepted, and the rest of the plan is gone on with. -/
  | accepted (p : Path) (text : String) {rest : List (Path × String)} {tried : List Attempt}
      {fault : Option WriteFault} (h : Follows rest tried fault) :
      Follows ((p, text) :: rest) (⟨p, text, .ok ()⟩ :: tried) fault

namespace Follows

variable {plan : List (Path × String)} {tried : List Attempt} {fault : Option WriteFault}

/-- What is tried is a first part of the plan. -/
lemma map_call_prefix_plan (h : Follows plan tried fault) : tried.map Attempt.call <+: plan := by
  induction h with
  | done => exact List.prefix_rfl
  | refused p text rest r => exact ⟨rest, rfl⟩
  | accepted p text _ ih => exact List.cons_prefix_cons.mpr ⟨rfl, ih⟩

/-- Only the last write that is tried can be refused. -/
lemma answer_of_mem_dropLast (h : Follows plan tried fault) :
    ∀ a ∈ tried.dropLast, a.answer = .ok () := by
  induction h with
  | done => simp
  | refused p text rest r => simp
  | @accepted p text rest tried fault _ ih =>
    intro a ha
    cases tried with
    | nil => simp at ha
    | cons b tried =>
      rw [List.dropLast_cons_cons] at ha
      rcases List.mem_cons.mp ha with rfl | ha
      · rfl
      · exact ih a ha

/-- If no write is refused, the plan is through. -/
lemma map_call_eq (h : Follows plan tried fault) (hall : ∀ a ∈ tried, a.answer = .ok ()) :
    tried.map Attempt.call = plan := by
  induction h with
  | done => rfl
  | refused p text rest r => simp at hall
  | accepted p text _ ih =>
    rw [List.map_cons, ih fun a ha => hall a (List.mem_cons_of_mem _ ha)]
    rfl

/-- There is no fault exactly when no write is refused. -/
lemma fault_eq_none_iff (h : Follows plan tried fault) :
    fault = none ↔ ∀ a ∈ tried, a.answer = .ok () := by
  induction h with
  | done => simp
  | refused p text rest r => simp
  | accepted p text _ ih => simpa using ih

/-- If the last write of the plan is tried, all before it were accepted. -/
lemma mem_of_length_eq (h : Follows plan tried fault) (hlength : tried.length = plan.length)
    {p : Path} {text : String} (hcall : (p, text) ∈ plan.dropLast) :
    (⟨p, text, .ok ()⟩ : Attempt) ∈ tried := by
  induction h with
  | done => cases hcall
  | refused q text' rest r =>
    cases rest with
    | nil => simp at hcall
    | cons call rest => simp at hlength
  | @accepted q text' rest tried fault _ ih =>
    cases rest with
    | nil => simp at hcall
    | cons call rest =>
      rw [List.dropLast_cons_cons] at hcall
      rcases List.mem_cons.mp hcall with heq | hcall
      · obtain ⟨rfl, rfl⟩ := Prod.mk.inj heq
        exact List.mem_cons_self
      · exact List.mem_cons_of_mem _ (ih (by simpa using hlength) hcall)

end Follows

/-- The fault in which a step ends, if it does. -/
def faultOf {α : Type} : Except WriteFault α → Option WriteFault
  | .ok _ => none
  | .error fault => some fault

/-- What is made of a result does not change its fault. -/
@[simp] lemma faultOf_map {α β : Type} (g : α → β) (r : Except WriteFault α) :
    faultOf (r.map g) = faultOf r := by
  cases r <;> rfl

/-- A step has no fault when it has a result. -/
lemma faultOf_eq_none {α : Type} {r : Except WriteFault α} :
    faultOf r = none ↔ ∃ a, r = .ok a := by
  cases r <;> simp [faultOf]

/-! ### What is planned -/

/-- What is written for an artifact. -/
def Artifact.call (a : Artifact) : Path × String := (a.output, a.text)

/-- The artifacts of the pages that an app lists, in the order of the list. -/
def Context.pageArtifacts (c : Context) (depth : Nat) (f : Files) : List Artifact :=
  (c.listedPages f).filterMap (artifactAlone f c depth)

/-- The plan for the app, as the files tell: its pages and then its entry, if the entry has a
scan. -/
def Context.appPlan (c : Context) (depth : Nat) (f : Files) : List (Path × String) :=
  match f.script c.platform c.entryPath with
  | none => []
  | some file =>
    match f.scan file with
    | .error _ => []
    | .ok scan =>
      (c.pageArtifacts depth f ++ [Artifact.ofSource file scan.config]).map Artifact.call

/-- The plan for a project: the compiler config, and then the app as the files tell once that is
written.  Without a project, or for a version without a file migration, nothing is planned. -/
def Context.plan {σ : Type} (c : Context) (depth : Nat) (m : Store σ) (s : σ) :
    List (Path × String) :=
  if (m.files s).present c.packagePath = true ∧ c.target = fileVersion then
    let compiler := c.compilerCall (m.files s)
    compiler :: c.appPlan depth (m.files (m.after s compiler.1 compiler.2))
  else []

section

variable {f : Files} {c : Context} {file : Path}

lemma appPlan_of_missing (hfile : f.script c.platform c.entryPath = none) (depth : Nat) :
    c.appPlan depth f = [] := by
  simp [Context.appPlan, hfile]

lemma appPlan_of_error {e : String} (hfile : f.script c.platform c.entryPath = some file)
    (hscan : f.scan file = .error e) (depth : Nat) : c.appPlan depth f = [] := by
  simp [Context.appPlan, hfile, hscan]

lemma appPlan_of_ok {scan : Scan} (hfile : f.script c.platform c.entryPath = some file)
    (hscan : f.scan file = .ok scan) (depth : Nat) :
    c.appPlan depth f
      = (c.pageArtifacts depth f ++ [Artifact.ofSource file scan.config]).map Artifact.call := by
  simp [Context.appPlan, hfile, hscan]

/-- The artifacts that a migration works out are those planned. -/
lemma writes_produce {scan : Scan} (hfile : f.script c.platform c.entryPath = some file)
    (hscan : f.scan file = .ok scan) (depth : Nat) :
    ((produce c depth file scan).ask f).writes = c.appPlan depth f := by
  rw [appPlan_of_ok hfile hscan, Context.pageArtifacts, listedPages_eq hfile hscan, ask_produce]
  rfl

end

/-! ### Runs follow their plan -/

section

variable {σ : Type} (m : Store σ)

/-- Files that are written one after another follow the list of them. -/
lemma follows_writeAll (calls : List (Path × String)) (s : σ) :
    Follows calls (m.run (writeAll calls) s).attempts
      (faultOf (m.run (writeAll calls) s).result) := by
  induction calls generalizing s with
  | nil => exact .done
  | cons call calls ih =>
    obtain ⟨p, text⟩ := call
    simp only [writeAll, Job.bind_eq, Store.run_bind, Store.run_put, Run.andThen_mk]
    cases hwrite : (m.files s).write p text with
    | ok u => exact .accepted p text (ih (m.after s p text))
    | error r => exact .refused p text calls r

/-- A migration of the app follows its plan. -/
lemma follows_migrateApp (c : Context) (depth : Nat) (s : σ) :
    Follows (c.appPlan depth (m.files s)) (m.run (migrateApp c depth) s).attempts
      (faultOf (m.run (migrateApp c depth) s).result) := by
  cases hfile : (m.files s).script c.platform c.entryPath with
  | none =>
    rw [run_migrateApp_of_missing m hfile, appPlan_of_missing hfile]
    exact .done
  | some file =>
    cases hscan : (m.files s).scan file with
    | error e =>
      rw [run_migrateApp_of_error m hfile hscan, appPlan_of_error hfile hscan]
      exact .done
    | ok scan =>
      rw [run_migrateApp_of_ok m hfile hscan, ← writes_produce hfile hscan]
      simpa [Run.andThen] using
        follows_writeAll m ((produce c depth file scan).ask (m.files s)).writes s

/-- A migration of a project follows its plan. -/
lemma follows_migrate (c : Context) (depth : Nat) (s : σ) :
    Follows (c.plan depth m s) (m.run (migrate c depth) s).attempts
      (faultOf (m.run (migrate c depth) s).result) := by
  cases hpackage : (m.files s).present c.packagePath with
  | false =>
    rw [run_migrate_of_missing m hpackage, Context.plan, if_neg (by simp [hpackage])]
    exact .done
  | true =>
    by_cases htarget : c.target = fileVersion
    · obtain ⟨p, text, hcall⟩ : ∃ p text, c.compilerCall (m.files s) = (p, text) := ⟨_, _, rfl⟩
      have hplan : c.plan depth m s
          = (p, text) :: c.appPlan depth (m.files (m.after s p text)) := by
        rw [Context.plan, if_pos ⟨hpackage, htarget⟩, hcall]
      rw [hplan]
      cases hwrite : (m.files s).write p text with
      | error r =>
        rw [run_migrate_of_refused m hpackage htarget hcall hwrite]
        exact .refused p text _ r
      | ok u =>
        rw [run_migrate_of_accepted m hpackage htarget hcall hwrite]
        simpa using (follows_migrateApp m c depth (m.after s p text)).accepted p text
    · rw [run_migrate_of_ne m hpackage htarget, Context.plan, if_neg (by simp [htarget])]
      exact .done

end

/-! ### Names of what is planned -/

/-- The compiler config has the name of a config file. -/
lemma hasConfigName_compiler (c : Context) (f : Files) : (c.compilerCall f).1.HasConfigName := by
  have hname : Path.IsName compilerFile := Path.isName_of_length (by decide) (by decide)
  exact ⟨compilerFile, Path.fileName?_join _ hname, by decide⟩

/-- Everything planned for the app has the name of a config file. -/
lemma hasConfigName_of_mem_appPlan {c : Context} {depth : Nat} {f : Files} {call : Path × String}
    (hcall : call ∈ c.appPlan depth f) : call.1.HasConfigName := by
  have hsource : ∀ (source : Path) (config : Json.Value),
      (Artifact.ofSource source config).call.1.HasConfigName := by
    intro source config
    rw [Artifact.call, Artifact.ofSource]
    exact Path.hasConfigName_artifact source
  cases hfile : f.script c.platform c.entryPath with
  | none => simp [appPlan_of_missing hfile] at hcall
  | some file =>
    cases hscan : f.scan file with
    | error e => simp [appPlan_of_error hfile hscan] at hcall
    | ok scan =>
      rw [appPlan_of_ok hfile hscan] at hcall
      obtain ⟨artifact, hmem, rfl⟩ := List.mem_map.mp hcall
      rcases List.mem_append.mp hmem with hpage | hentry
      · obtain ⟨page, -, hpage⟩ := List.mem_filterMap.mp hpage
        obtain ⟨source, -, hconfig⟩ := Option.bind_eq_some_iff.mp hpage
        obtain ⟨config, -, rfl⟩ := Option.map_eq_some_iff.mp hconfig
        exact hsource source config
      · obtain rfl := List.mem_singleton.mp hentry
        exact hsource file scan.config

/-- Everything planned for a project has the name of a config file. -/
lemma hasConfigName_of_mem_plan {σ : Type} {c : Context} {depth : Nat} {m : Store σ} {s : σ}
    {call : Path × String} (hcall : call ∈ c.plan depth m s) : call.1.HasConfigName := by
  unfold Context.plan at hcall
  split at hcall
  · rcases List.mem_cons.mp hcall with rfl | happ
    · exact hasConfigName_compiler c _
    · exact hasConfigName_of_mem_appPlan happ
  · cases hcall

/-- Everything a migration tries to write has the name of a config file. -/
lemma hasConfigName_of_mem_attempts {σ : Type} {m : Store σ} {c : Context} {depth : Nat} {s : σ}
    {a : Attempt} (ha : a ∈ (m.run (migrate c depth) s).attempts) : a.path.HasConfigName := by
  have htried := (follows_migrate m c depth s).map_call_prefix_plan
  have hcall : a.call ∈ c.plan depth m s := htried.subset (List.mem_map.mpr ⟨a, ha, rfl⟩)
  have hname := hasConfigName_of_mem_plan hcall
  exact hname

/-- **A migration changes nothing on a disk but what has the name of a config file.** -/
theorem at?_run_migrate (c : Context) (depth : Nat) (d : Disk) {place : Place}
    (hname : ∀ n, place.getLast? = some n → ¬ Path.IsConfigName n) :
    (d.run (migrate c depth)).2.at? place = d.at? place := by
  rw [Disk.run_eq]
  apply Disk.store.view_final fun d => d.at? place
  intro a ha d'
  obtain ⟨n, hfile, hconfig⟩ := hasConfigName_of_mem_attempts ha
  apply Disk.at?_after
  intro hlast
  exact hname n (hlast.trans hfile) hconfig

/-! ### Migrations follow their plan -/

/-- **A migration follows its plan.**  On every store and from every state, whatever writes are
refused there:

* the writes that are tried are a first part of the plan, only the last of them can be refused, and
  if none is, they are the whole plan;
* the migration has an outcome exactly when no write that it tried was refused;
* nothing is planned without a project or for a version without a file migration, and only the
  compiler config if the entry is missing or has no scan;
* otherwise the plan is the compiler config, the artifacts of the pages in the order of the page
  list, and the artifact of the entry; and once that one is tried, the artifacts of all pages have
  been written;
* everything planned has the name of a config file, so whatever writes to such files leave alone is
  the same after the migration as before. -/
theorem migrate_follows_plan {σ : Type} (m : Store σ) (c : Context) (depth : Nat) (s : σ) :
    let run := m.run (migrate c depth) s
    let plan := c.plan depth m s
    let compiler := c.compilerCall (m.files s)
    let f := m.files (m.after s compiler.1 compiler.2)
    run.attempts.map Attempt.call <+: plan ∧
    (∀ a ∈ run.attempts.dropLast, a.answer = .ok ()) ∧
    ((∀ a ∈ run.attempts, a.answer = .ok ()) → run.attempts.map Attempt.call = plan) ∧
    ((∃ outcome, run.result = .ok outcome) ↔ ∀ a ∈ run.attempts, a.answer = .ok ()) ∧
    ((m.files s).present c.packagePath = false ∨ c.target ≠ fileVersion → plan = []) ∧
    ((m.files s).present c.packagePath = true → c.target = fileVersion →
      compiler.1 = c.appRoot.join ⟨"babel.config.js"⟩ ∧
      (f.script c.platform c.entryPath = none → plan = [compiler]) ∧
      ∀ file, f.script c.platform c.entryPath = some file →
        (∀ e, f.scan file = .error e → plan = [compiler]) ∧
        ∀ scan, f.scan file = .ok scan →
          plan = compiler ::
            (c.pageArtifacts depth f ++ [Artifact.ofSource file scan.config]).map Artifact.call ∧
          (run.attempts.length = plan.length →
            ∀ a ∈ c.pageArtifacts depth f, ⟨a.output, a.text, .ok ()⟩ ∈ run.attempts)) ∧
    (∀ call ∈ plan, ∃ name, call.1.fileName? = some name ∧
      (".config.js".toList <:+ name.toList ∨ ".config.ts".toList <:+ name.toList)) ∧
    ∀ (γ : Type) (view : σ → γ),
      (∀ p text s, p.HasConfigName → view (m.after s p text) = view s) →
        view run.final = view s := by
  intro run plan compiler f
  have hfollows : Follows plan run.attempts (faultOf run.result) := follows_migrate m c depth s
  have htried := hfollows.map_call_prefix_plan
  have hplan : (m.files s).present c.packagePath = true → c.target = fileVersion →
      plan = compiler :: c.appPlan depth f := by
    intro hpackage htarget
    exact if_pos ⟨hpackage, htarget⟩
  refine ⟨htried, hfollows.answer_of_mem_dropLast, hfollows.map_call_eq, ?_, ?_, ?_, ?_, ?_⟩
  · rw [← faultOf_eq_none]
    exact hfollows.fault_eq_none_iff
  · intro hnone
    refine if_neg ?_
    rintro ⟨hpackage, htarget⟩
    rcases hnone with hmissing | hother
    · simp [hpackage] at hmissing
    · exact hother htarget
  · intro hpackage htarget
    rw [hplan hpackage htarget]
    refine ⟨rfl, ?_, ?_⟩
    · intro hfile
      rw [appPlan_of_missing hfile]
    · intro file hfile
      refine ⟨?_, ?_⟩
      · intro e hscan
        rw [appPlan_of_error hfile hscan]
      · intro scan hscan
        have happ := appPlan_of_ok hfile hscan depth
        refine ⟨by rw [happ], ?_⟩
        intro hlength a ha
        rw [← hplan hpackage htarget] at hlength
        apply hfollows.mem_of_length_eq hlength
        -- the entry is the last of the plan, and the page stands before it
        rw [hplan hpackage htarget, happ, List.map_append, List.map_singleton,
          ← List.cons_append, List.dropLast_concat]
        exact List.mem_cons_of_mem _ (List.mem_map.mpr ⟨a, ha, rfl⟩)
  · intro call hcall
    exact hasConfigName_of_mem_plan hcall
  · intro γ view hview
    apply m.view_final view
    intro a ha s'
    exact hview a.path a.text s' (hasConfigName_of_mem_attempts ha)

/-- A project with one page, in which only the first write is accepted. -/
def brittle : Store Nat where
  files n :=
    { Files.ofTexts [(⟨"/package.json"⟩, ""), (⟨"/a.js"⟩, ""),
        (⟨"/app.js"⟩, "class A\x7bconfig=\x7bpages:['a']\x7d\x7d")] with
      write := fun _ _ => if n = 0 then .ok () else .error .isDirectory }
  after n _ _ := n + 1

/-- In the brittle project three writes are planned; the second is refused, and the third is not
tried. -/
theorem migrate_follows_plan_brittle :
    (medleyContext.plan 5 brittle 0).map (fun call => call.1.text)
        = ["/babel.config.js", "/a.config.js", "/app.config.js"] ∧
      ((brittle.run (migrate medleyContext 5) 0).attempts.map fun a => (a.path.text, a.answer))
        = [("/babel.config.js", .ok ()), ("/a.config.js", .error .isDirectory)] ∧
      ¬ ∃ outcome, (brittle.run (migrate medleyContext 5) 0).result = .ok outcome := by
  have htried : ((brittle.run (migrate medleyContext 5) 0).attempts.map
      fun a => (a.path.text, a.answer))
        = [("/babel.config.js", .ok ()), ("/a.config.js", .error .isDirectory)] := by
    decide +kernel
  refine ⟨by decide +kernel, htried, ?_⟩
  obtain ⟨-, -, -, hiff, -⟩ := migrate_follows_plan brittle medleyContext 5 0
  rw [hiff]
  intro hall
  have hlast : ("/a.config.js", Except.error Refusal.isDirectory)
      ∈ (brittle.run (migrate medleyContext 5) 0).attempts.map
          fun a => (a.path.text, a.answer) := by
    rw [htried]
    simp
  obtain ⟨a, ha, heq⟩ := List.mem_map.mp hlast
  have hok := hall a ha
  simp [hok] at heq

end PageConfig.Project
