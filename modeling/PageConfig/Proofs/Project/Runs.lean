import PageConfig.Project.Migration
import PageConfig.Proofs.Resolve.OnDisk
import PageConfig.Proofs.Store

/-!
# Runs of a migration

A migration looks, writes the compiler config, looks again, and then writes its
artifacts.  While it looks it changes nothing, so what it sees is told by the
files of one state; while it writes it asks for nothing.  Here each step of a
migration is put down once as a run on any store, with one equation for every
way it can go, and later proofs use these equations only.
-/

namespace PageConfig

/-- A run that changed nothing so far goes on as from its start. -/
@[simp] lemma Run.andThen_nil {σ α β : Type} (a : α) (s : σ) (next : α → σ → Run σ β) :
    Run.andThen ⟨a, [], s⟩ next = next a s := rfl

/-- What a run does goes in front of what it goes on with. -/
lemma Run.andThen_mk {σ α β : Type} (a : α) (tried : List Attempt) (s : σ)
    (next : α → σ → Run σ β) :
    Run.andThen ⟨a, tried, s⟩ next
      = ⟨(next a s).result, tried ++ (next a s).attempts, (next a s).final⟩ := rfl

namespace Project

open PageConfig.Extract (Scan)

/-! ### Steps that write nothing -/

/-- A scan writes nothing. -/
lemma readOnly_scanFile (p : Path) : (Extract.scanFile p).ReadOnly := by
  refine .read p fun r => ?_
  cases r with
  | ok code => exact .done _
  | error r => exact .done _

/-- What is done about a page writes nothing. -/
lemma readOnly_visitPage (c : Context) (depth : Nat) (page : String) (s : Progress) :
    (visitPage c depth page s).ReadOnly := by
  refine .bind (Resolve.readOnly_firstFile _) fun file? => ?_
  cases file? with
  | none => exact .done _
  | some file =>
    by_cases hignored : c.isIgnored file = true
    · simp only [hignored, if_true]
      exact .done _
    · simp only [hignored]
      refine .bind (Resolve.readOnly_page c.lookup depth file s.findings) fun r => ?_
      obtain ⟨config?, findings⟩ := r
      cases config? with
      | some config => exact .done _
      | none => exact .done _

/-- What is done about the pages writes nothing. -/
lemma readOnly_visitPages (c : Context) (depth : Nat) (pages : List String) (s : Progress) :
    (visitPages c depth pages s).ReadOnly := by
  induction pages generalizing s with
  | nil => exact .done s
  | cons page pages ih => exact .bind (readOnly_visitPage c depth page s) ih

/-- Working out the artifacts writes nothing. -/
lemma readOnly_produce (c : Context) (depth : Nat) (file : Path) (scan : Scan) :
    (produce c depth file scan).ReadOnly :=
  .bind (readOnly_visitPages c depth _ .start) fun _ => .done _

/-- Looking at the build config writes nothing. -/
lemma readOnly_inspectBuild (c : Context) : (inspectBuild c).ReadOnly := by
  refine .bind (Resolve.readOnly_firstFile _) fun path? => ?_
  cases path? with
  | none => exact .done _
  | some path =>
    refine .bind ?_ fun inspection => .done _
    refine .read path fun r => ?_
    cases r with
    | ok code => exact .done _
    | error r => exact .done _

section

variable {σ : Type} (m : Store σ)

/-- Looking for a script changes nothing. -/
@[simp] lemma run_script (platform : Option String) (logical : Path) (s : σ) :
    m.run (Resolve.script platform logical) s = ⟨(m.files s).script platform logical, [], s⟩ :=
  m.run_of_readOnly (Resolve.readOnly_firstFile _) s

/-- A scan changes nothing. -/
@[simp] lemma run_scanFile (p : Path) (s : σ) :
    m.run (Extract.scanFile p) s = ⟨(m.files s).scan p, [], s⟩ :=
  m.run_of_readOnly (readOnly_scanFile p) s

/-- Looking at the build config changes nothing. -/
@[simp] lemma run_inspectBuild (c : Context) (s : σ) :
    m.run (inspectBuild c) s = ⟨(inspectBuild c).ask (m.files s), [], s⟩ :=
  m.run_of_readOnly (readOnly_inspectBuild c) s

/-- Working out the artifacts changes nothing. -/
@[simp] lemma run_produce (c : Context) (depth : Nat) (file : Path) (scan : Scan) (s : σ) :
    m.run (produce c depth file scan) s = ⟨(produce c depth file scan).ask (m.files s), [], s⟩ :=
  m.run_of_readOnly (readOnly_produce c depth file scan) s

@[simp] lemma run_askPresent (p : Path) (s : σ) :
    m.run (Job.askPresent p) s = ⟨(m.files s).present p, [], s⟩ := rfl

@[simp] lemma run_askFile (p : Path) (s : σ) :
    m.run (Job.askFile p) s = ⟨(m.files s).isFile p, [], s⟩ := rfl

/-! ### The app -/

/-- Without an entry nothing is written. -/
lemma run_migrateApp_of_missing {c : Context} {s : σ}
    (hfile : (m.files s).script c.platform c.entryPath = none) (depth : Nat) :
    m.run (migrateApp c depth) s = ⟨.ok (.missingEntry c.entryPath), [], s⟩ := by
  simp [migrateApp, hfile]

/-- If the entry has no scan nothing is written. -/
lemma run_migrateApp_of_error {c : Context} {s : σ} {file : Path} {e : String}
    (hfile : (m.files s).script c.platform c.entryPath = some file)
    (hscan : (m.files s).scan file = .error e) (depth : Nat) :
    m.run (migrateApp c depth) s = ⟨.ok (.unparsedEntry (c.display file) e), [], s⟩ := by
  simp [migrateApp, hfile, hscan]

/-- If the entry has a scan, the artifacts are worked out from it and written. -/
lemma run_migrateApp_of_ok {c : Context} {s : σ} {file : Path} {scan : Scan}
    (hfile : (m.files s).script c.platform c.entryPath = some file)
    (hscan : (m.files s).scan file = .ok scan) (depth : Nat) :
    let artifacts := (produce c depth file scan).ask (m.files s)
    m.run (migrateApp c depth) s
      = (m.run (writeAll artifacts.writes) s).andThen fun r s =>
          ⟨r.map fun _ => .migrated artifacts, [], s⟩ := by
  simp only [migrateApp, Job.bind_eq, Store.run_bind, run_script, Run.andThen_nil, hfile,
    run_scanFile, hscan, run_produce]
  congr 1
  funext r s'
  cases r with
  | ok u => rfl
  | error fault => rfl

/-- A migration of the app that comes to its end has an entry with a scan, and its artifacts are
those worked out from it. -/
lemma migrated_inv {c : Context} {depth : Nat} {s : σ} {a : Artifacts}
    (h : (m.run (migrateApp c depth) s).result = .ok (.migrated a)) :
    ∃ file scan, (m.files s).script c.platform c.entryPath = some file ∧
      (m.files s).scan file = .ok scan ∧ (produce c depth file scan).ask (m.files s) = a := by
  cases hfile : (m.files s).script c.platform c.entryPath with
  | none => simp [run_migrateApp_of_missing m hfile] at h
  | some file =>
    cases hscan : (m.files s).scan file with
    | error e => simp [run_migrateApp_of_error m hfile hscan] at h
    | ok scan =>
      refine ⟨file, scan, rfl, hscan, ?_⟩
      rw [run_migrateApp_of_ok m hfile hscan, Run.andThen] at h
      cases hresult : (m.run (writeAll ((produce c depth file scan).ask (m.files s)).writes)
          s).result with
      | error fault => simp [hresult, Except.map] at h
      | ok u => simpa [hresult, Except.map] using h

/-! ### The project -/

/-- The file that marks a project. -/
def Context.packagePath (c : Context) : Path := c.appRoot.join ⟨packageFile⟩

/-- The compiler config of a project: its path, and its text as the files tell. -/
def Context.compilerCall (c : Context) (f : Files) : Path × String :=
  (c.appRoot.join ⟨compilerFile⟩,
    babelConfig c.settings.framework (f.isFile (c.appRoot.join ⟨typesFile⟩)))

/-- The summary of a run that came to the app. -/
def Context.summary (c : Context) (f : Files) (app : AppOutcome) : Summary :=
  ⟨c.target, (inspectBuild c).ask f, some (c.compilerCall f).1, some app⟩

/-- Where there is no project nothing is written. -/
lemma run_migrate_of_missing {c : Context} {s : σ}
    (hpackage : (m.files s).present c.packagePath = false) (depth : Nat) :
    m.run (migrate c depth) s = ⟨.ok (.missingPackage c.packagePath), [], s⟩ := by
  rw [Context.packagePath] at hpackage ⊢
  simp [migrate, hpackage]

/-- For a version without a file migration nothing is written. -/
lemma run_migrate_of_ne {c : Context} {s : σ}
    (hpackage : (m.files s).present c.packagePath = true) (htarget : c.target ≠ fileVersion)
    (depth : Nat) :
    m.run (migrate c depth) s
      = ⟨.ok (.finished ⟨c.target, (inspectBuild c).ask (m.files s), none, none⟩), [], s⟩ := by
  rw [Context.packagePath] at hpackage
  simp [migrate, hpackage, htarget]

/-- If the compiler config is refused, the run ends there. -/
lemma run_migrate_of_refused {c : Context} {s : σ} {p : Path} {text : String} {r : Refusal}
    (hpackage : (m.files s).present c.packagePath = true) (htarget : c.target = fileVersion)
    (hcall : c.compilerCall (m.files s) = (p, text))
    (hwrite : (m.files s).write p text = .error r) (depth : Nat) :
    m.run (migrate c depth) s = ⟨.error ⟨p, r⟩, [⟨p, text, .error r⟩], m.after s p text⟩ := by
  rw [Context.packagePath] at hpackage
  obtain ⟨rfl, rfl⟩ := Prod.mk.inj hcall
  simp [migrate, hpackage, htarget, hwrite, Run.andThen_mk]

/-- If the compiler config is accepted, the app is migrated from the state after it. -/
lemma run_migrate_of_accepted {c : Context} {s : σ} {p : Path} {text : String}
    (hpackage : (m.files s).present c.packagePath = true) (htarget : c.target = fileVersion)
    (hcall : c.compilerCall (m.files s) = (p, text))
    (hwrite : (m.files s).write p text = .ok ()) (depth : Nat) :
    let app := m.run (migrateApp c depth) (m.after s p text)
    m.run (migrate c depth) s
      = ⟨app.result.map fun a => .finished (c.summary (m.files s) a),
          ⟨p, text, .ok ()⟩ :: app.attempts, app.final⟩ := by
  rw [Context.packagePath] at hpackage
  obtain ⟨rfl, rfl⟩ := Prod.mk.inj hcall
  simp only [migrate, Job.bind_eq, Store.run_bind, run_askPresent, hpackage, if_true,
    run_inspectBuild, htarget, ne_eq, not_true_eq_false, if_false, run_askFile, Store.run_put,
    hwrite, Run.andThen_mk, Context.summary, Context.compilerCall]
  generalize m.run (migrateApp c depth) _ = app
  obtain ⟨result, tried, final⟩ := app
  cases result with
  | ok app => simp [Run.andThen_mk, Except.map]
  | error fault => simp [Run.andThen_mk, Except.map]

end

end Project

end PageConfig
