import PageConfig.Proofs.Disk.Writes
import PageConfig.Proofs.Project.Plan
import PageConfig.Proofs.Resolve.Agreement

/-!
# Rehearsed migrations

A migration that is rehearsed on a disk comes to the same end as one that writes
to it, as long as the disk refuses no write.  The two are in step until the
compiler config is written.  From then on one sees the disk with the file
written, and the other the disk as it was with the file laid over it; these
agree at plain paths (`agree_overlay`), and a migration asks for nothing else
until it writes its artifacts.  What it writes then it does not look at again.

The argument needs the paths of a project to start at the root
(`Context.Settled`).  A file that is laid over a disk is met under its own path
only, while on the disk itself any way that leads there would do.
-/

namespace PageConfig

/-! ### A write laid over a disk -/

/-- **A write that is accepted is seen alike on the disk and laid over it.** -/
lemma agree_overlay {d d' : Disk} {p : Path} {text : String} (hp : p.Plain)
    (hwrite : d.write p text = .ok d') :
    (d.answers.overlay [(p, text)]).Agree d'.answers := by
  have hself : d'.entry? p = some (.file (.text text)) := by
    rw [Disk.entry?_write hp hwrite hp, if_pos rfl]
  have hother : ∀ q : Path, q.Plain → q ≠ p → d'.entry? q = d.entry? q := by
    intro q hq hne
    rw [Disk.entry?_write hp hwrite hq, if_neg hne]
  have hfound : Pending.find? [(p, text)] p = some text := by
    simp [Pending.find?]
  have hunfound : ∀ q : Path, q.Plain → q ≠ p → Pending.find? [(p, text)] q = none := by
    intro q hq hne
    have hsame : p.same q = false := by
      rw [Bool.eq_false_iff, ne_eq, hp.same_iff hq]
      exact Ne.symm hne
    simp [Pending.find?, hsame]
  have hisFile : ∀ q : Path, q.Plain →
      (d.answers.overlay [(p, text)]).isFile q = d'.answers.isFile q := by
    intro q hq
    by_cases heq : q = p
    · subst heq
      have hfile : d'.isFile q = true := Disk.isFile_iff.mpr ⟨_, hself⟩
      simp [Files.overlay, hfound, Disk.answers, hfile]
    · have hfile : d'.isFile q = d.isFile q := by
        rw [Disk.isFile, Disk.isFile, hother q hq heq]
      simp [Files.overlay, hunfound q hq heq, Disk.answers, hfile]
  refine ⟨hisFile, ?_, ?_⟩
  · rintro q ⟨hq, hfile⟩
    by_cases heq : q = p
    · subst heq
      have hread : d'.read q = .ok text := Disk.read_of_entry hself
      simp [Files.overlay, hfound, Disk.answers, hread]
    · obtain ⟨content, hentry⟩ : ∃ content, d.entry? q = some (.file content) := by
        rw [← Disk.isFile_iff]
        simpa [Files.overlay, hunfound q hq heq, Disk.answers] using hfile
      have hread : d'.read q = d.read q := by
        rw [Disk.read_of_entry hentry, Disk.read_of_entry ((hother q hq heq).trans hentry)]
      simp [Files.overlay, hunfound q hq heq, Disk.answers, hread]
  · rw [hisFile _ ⟨[], Place.named_nil, rfl⟩]
    exact d'.isFile_root

namespace Project

open PageConfig.Extract (Scan)

/-! ### Contexts whose paths start at the root -/

/-- A context whose paths start at the root, and whose platform is no path. -/
structure Context.Settled (c : Context) : Prop where
  appRoot : c.appRoot.Plain
  sourceRoot : c.sourceRoot.Rooted
  platform : ∀ name ∈ c.platform, '/' ∉ name.toList

namespace Context.Settled

variable {c : Context}

/-- A context for a project in a directory that is given by a normal path from the root. -/
lemma of_ofSettings {settings : Settings} {root : Path} {target : Nat} {verbose : Bool}
    (hc : Context.ofSettings settings root target verbose = .ok c)
    (habsolute : root.isAbsolute = true) (hnormal : root.normalize = root)
    (hplatform : ∀ name ∈ c.platform, '/' ∉ name.toList) : c.Settled := by
  have hroot : root.Rooted := Path.rooted_of_isAbsolute habsolute
  have hplain : root.Plain := by
    rw [← hnormal]
    exact hroot.plain_normalize
  unfold Context.ofSettings at hc
  cases hpatterns : settings.patterns with
  | error problem =>
    rw [hpatterns] at hc
    cases hc
  | ok ignores =>
    rw [hpatterns] at hc
    obtain rfl := Except.ok.inj hc
    exact ⟨hplain, (hroot.join _).plain_normalize.rooted, hplatform⟩

/-- The entry is looked for from the root. -/
lemma rooted_entryPath (h : c.Settled) : c.entryPath.Rooted :=
  (h.sourceRoot.join _).plain_normalize.rooted

/-- Pages are looked for from the root. -/
lemma rooted_pagePath (h : c.Settled) (page : String) : (c.pagePath page).Rooted :=
  (h.sourceRoot.join _).plain_normalize.rooted

/-- The compiler config has a plain path. -/
lemma plain_compiler (h : c.Settled) (f : Files) : (c.compilerCall f).1.Plain := by
  have hname : Path.IsName compilerFile := Path.isName_of_length (by decide) (by decide)
  exact h.appRoot.join hname

end Context.Settled

/-! ### Files that agree -/

section

variable {f g : Files} {c : Context} (h : f.Agree g) (hc : c.Settled)
include h hc

/-- What is done about a page comes to the same on files that agree. -/
lemma ask_visitPage_agree (depth : Nat) (page : String) (s : Progress) :
    (visitPage c depth page s).ask f = (visitPage c depth page s).ask g := by
  have hscript := h.script hc.platform (hc.rooted_pagePath page)
  simp only [visitPage, Job.bind_eq, Job.ask_bind, Files.ask_script]
  rw [← hscript]
  cases hfile : f.script c.platform (c.pagePath page) with
  | none => rfl
  | some file =>
    have hholds : f.Holds file :=
      Files.holds_of_script hc.platform (hc.rooted_pagePath page) hfile
    have hpage := h.ask_page (l := c.lookup) hc.platform depth hholds s.findings
    cases hignored : c.isIgnored file with
    | true => simp [hignored]
    | false =>
      simp only [hignored, Bool.false_eq_true, if_false, Job.ask_bind, hpage]
      obtain ⟨config?, findings⟩ := (Resolve.page c.lookup depth file s.findings).ask g
      cases config? with
      | none => rfl
      | some config => rfl

/-- What is done about the pages comes to the same on files that agree. -/
lemma ask_visitPages_agree (depth : Nat) (pages : List String) (s : Progress) :
    (visitPages c depth pages s).ask f = (visitPages c depth pages s).ask g := by
  induction pages generalizing s with
  | nil => rfl
  | cons page pages ih =>
    simp only [visitPages, Job.bind_eq, Job.ask_bind]
    rw [ask_visitPage_agree h hc, ih]

/-- The artifacts are the same on files that agree. -/
lemma ask_produce_agree (depth : Nat) (file : Path) (scan : Scan) :
    (produce c depth file scan).ask f = (produce c depth file scan).ask g := by
  simp only [produce, Job.bind_eq, Job.ask_bind]
  rw [ask_visitPages_agree h hc]
  rfl

end

/-! ### Runs in step -/

/-- Runs with the same result, in which the same writes were tried in the same order. -/
structure InStep {σ τ α : Type} (r : Run σ α) (r' : Run τ α) : Prop where
  result : r.result = r'.result
  calls : r.attempts.map Attempt.call = r'.attempts.map Attempt.call

section

variable {σ τ : Type} (m : Store σ) (n : Store τ) {c : Context} {depth : Nat} {s : σ} {t : τ}

/-- Files that are written one after another are all written if none is refused. -/
lemma run_writeAll_of_accepted {calls : List (Path × String)}
    (hall : ∀ a ∈ (m.run (writeAll calls) s).attempts, a.answer = .ok ()) :
    (m.run (writeAll calls) s).result = .ok () ∧
      (m.run (writeAll calls) s).attempts.map Attempt.call = calls := by
  have hfollows := follows_writeAll m calls s
  have hfault := hfollows.fault_eq_none_iff.mpr hall
  obtain ⟨u, hresult⟩ := faultOf_eq_none.mp hfault
  exact ⟨hresult, hfollows.map_call_eq hall⟩

/-- Migrations of the app on files that agree are in step, if no write is refused on either side. -/
lemma run_migrateApp_agree (hc : c.Settled) (h : (m.files s).Agree (n.files t))
    (hm : ∀ a ∈ (m.run (migrateApp c depth) s).attempts, a.answer = .ok ())
    (hn : ∀ a ∈ (n.run (migrateApp c depth) t).attempts, a.answer = .ok ()) :
    InStep (m.run (migrateApp c depth) s) (n.run (migrateApp c depth) t) := by
  have hscript := h.script hc.platform hc.rooted_entryPath
  cases hfile : (m.files s).script c.platform c.entryPath with
  | none =>
    rw [hfile] at hscript
    rw [run_migrateApp_of_missing m hfile, run_migrateApp_of_missing n hscript.symm]
    exact ⟨rfl, rfl⟩
  | some file =>
    have hholds := Files.holds_of_script hc.platform hc.rooted_entryPath hfile
    have hscan' := h.scan hholds
    rw [hfile] at hscript
    cases hscan : (m.files s).scan file with
    | error e =>
      rw [hscan] at hscan'
      rw [run_migrateApp_of_error m hfile hscan, run_migrateApp_of_error n hscript.symm hscan'.symm]
      exact ⟨rfl, rfl⟩
    | ok scan =>
      rw [hscan] at hscan'
      have hproduce := ask_produce_agree h hc depth file scan
      rw [run_migrateApp_of_ok m hfile hscan, Run.andThen] at hm ⊢
      rw [run_migrateApp_of_ok n hscript.symm hscan'.symm, Run.andThen, ← hproduce] at hn ⊢
      simp only [List.append_nil] at hm hn ⊢
      obtain ⟨hmresult, hmcalls⟩ := run_writeAll_of_accepted m hm
      obtain ⟨hnresult, hncalls⟩ := run_writeAll_of_accepted n hn
      constructor
      · rw [hmresult, hnresult]
      · rw [hmcalls, hncalls]

end

section

variable {c : Context} {d d' : Disk} {depth : Nat}

/-- Before anything is written, a rehearsal sees the build config as it is on the disk. -/
lemma ask_inspectBuild_rehearsal (c : Context) (d : Disk) :
    (inspectBuild c).ask (d.answers.rehearsal.files []) = (inspectBuild c).ask d.answers :=
  d.answers.ask_overlay_nil (readOnly_inspectBuild c)

/-- Once the compiler config is written, the rehearsal of a migration stays in step with it. -/
lemma inStep_migrate_of_write {p : Path} {text : String} (hc : c.Settled)
    (hpackage : d.answers.present c.packagePath = true) (htarget : c.target = fileVersion)
    (hcall : c.compilerCall d.answers = (p, text)) (hwrite : d.write p text = .ok d')
    (hall : ∀ a ∈ (Disk.store.run (migrate c depth) d).attempts, a.answer = .ok ()) :
    InStep (d.answers.rehearsal.run (migrate c depth) [])
      (Disk.store.run (migrate c depth) d) := by
  have hplain : p.Plain := by
    have hcompiler := hc.plain_compiler d.answers
    rwa [hcall] at hcompiler
  obtain ⟨haccepted, hafter⟩ := Disk.store_of_ok hwrite
  rw [run_migrate_of_accepted Disk.store hpackage htarget hcall haccepted, hafter] at hall ⊢
  -- the rehearsal keeps the write back, and nothing was laid over the disk before it
  have hpackage' : (d.answers.rehearsal.files []).present c.packagePath = true := hpackage
  have hcall' : c.compilerCall (d.answers.rehearsal.files []) = (p, text) := hcall
  have hkept : d.answers.rehearsal.after [] p text = [(p, text)] := rfl
  have hsummary : c.summary (d.answers.rehearsal.files []) = c.summary d.answers := by
    funext app
    rw [Context.summary, Context.summary, ask_inspectBuild_rehearsal, hcall', hcall]
  rw [run_migrate_of_accepted d.answers.rehearsal hpackage' htarget hcall' rfl, hkept, hsummary]
  have hagree : (d.answers.rehearsal.files [(p, text)]).Agree (Disk.store.files d') :=
    agree_overlay hplain hwrite
  obtain ⟨hresult, hcalls⟩ := run_migrateApp_agree d.answers.rehearsal Disk.store hc hagree
    (d.answers.answer_of_rehearsal (migrateApp c depth) [(p, text)])
    fun a ha => hall a (List.mem_cons_of_mem _ ha)
  constructor
  · simp only [hresult]
    rfl
  · simp only [List.map_cons, hcalls]

/-- A rehearsed migration is in step with one on the disk, if the disk refuses no write. -/
lemma inStep_migrate (hc : c.Settled)
    (hall : ∀ a ∈ (Disk.store.run (migrate c depth) d).attempts, a.answer = .ok ()) :
    InStep (d.answers.rehearsal.run (migrate c depth) [])
      (Disk.store.run (migrate c depth) d) := by
  -- until something is written the rehearsal sees what is on the disk
  have hpresent : (d.answers.rehearsal.files []).present c.packagePath
      = d.answers.present c.packagePath := rfl
  cases hpackage : d.answers.present c.packagePath with
  | false =>
    rw [hpackage] at hpresent
    rw [run_migrate_of_missing Disk.store hpackage, run_migrate_of_missing _ hpresent]
    exact ⟨rfl, rfl⟩
  | true =>
    by_cases htarget : c.target = fileVersion
    · obtain ⟨p, text, hcall⟩ : ∃ p text, c.compilerCall d.answers = (p, text) := ⟨_, _, rfl⟩
      cases hwrite : d.write p text with
      | error r =>
        have hrefused := (Disk.store_of_error hwrite).1
        rw [run_migrate_of_refused Disk.store hpackage htarget hcall hrefused] at hall
        simp at hall
      | ok d' => exact inStep_migrate_of_write hc hpackage htarget hcall hwrite hall
    · rw [hpackage] at hpresent
      rw [run_migrate_of_ne Disk.store hpackage htarget, run_migrate_of_ne _ hpresent htarget,
        ask_inspectBuild_rehearsal]
      exact ⟨rfl, rfl⟩

end

/-! ### Rehearsals tell what a migration does -/

/-- **A rehearsal tells what the migration does.**  Take a project in a directory that is given by a
normal path from the root, a platform that is no path, and any disk that refuses no write of the
migration.  Then the migration has an outcome, and the rehearsal on the disk

* has the same outcome,
* keeps the writes that the migration makes, paths and texts, in the order they are made, and
* leaves the disk as it was;

and these writes, one after another, make of the disk what the migration makes of it. -/
theorem rehearsal_refines_migration (settings : Settings) (root : Path) (target : Nat)
    (verbose : Bool) (c : Context)
    (hc : Context.ofSettings settings root target verbose = .ok c)
    (habsolute : root.isAbsolute = true) (hnormal : root.normalize = root)
    (hplatform : ∀ name, c.platform = some name → '/' ∉ name.toList) (d : Disk) (depth : Nat)
    (haccepted : ∀ a ∈ (Disk.store.run (migrate c depth) d).attempts, a.answer = .ok ()) :
    let writes := (Disk.store.run (migrate c depth) d).attempts.map Attempt.call
    ∃ outcome after,
      d.run (migrate c depth) = (.ok outcome, after) ∧
      d.run ((migrate c depth).rehearse []) = ((.ok outcome, writes), d) ∧
      writes.foldlM (fun d w => d.write w.1 w.2) d = .ok after := by
  have hsettled : c.Settled := Context.Settled.of_ofSettings hc habsolute hnormal hplatform
  obtain ⟨hresult, hcalls⟩ := inStep_migrate hsettled haccepted
  have hfollows := follows_migrate Disk.store c depth d
  obtain ⟨outcome, houtcome⟩ := faultOf_eq_none.mp (hfollows.fault_eq_none_iff.mpr haccepted)
  refine ⟨outcome, (Disk.store.run (migrate c depth) d).final, ?_, ?_, ?_⟩
  · rw [Disk.run_eq, houtcome]
  · rw [d.run_of_readOnly (Job.readOnly_rehearse _ _), Job.ask_rehearse, hresult, houtcome, hcalls]
    rfl
  · exact d.foldlM_write _ haccepted

/-- The settings of a project whose sources stand beside its package file. -/
def flatSettings : Settings := { Settings.default with sourceRoot := "." }

/-- A disk with a project that lists two pages: the one has the compiler config of the project as
its artifact, and the other is the compiler config, which is not there yet. -/
def flatDisk : Disk where
  entries := [
    (["package.json"], .file (.text "")),
    (["babel.js"], .file (.text "")),
    (["app.js"], .file (.text "class A\x7bconfig=\x7bpages:['babel.config','babel']\x7d\x7d"))]
  home := []

/-- The context of the project on that disk. -/
def flatContext : Context where
  settings := flatSettings
  appRoot := ⟨"/"⟩
  sourceRoot := ⟨"/"⟩
  target := 3
  verbose := false
  ignores := []

/-- The rehearsal finds the compiler config as a page although it is not on the disk, and keeps two
writes to one path in their order. -/
theorem rehearsal_refines_migration_flat :
    let writes := (Disk.store.run (migrate flatContext 3) flatDisk).attempts.map Attempt.call
    (writes.map fun w => w.1.text)
        = ["/babel.config.js", "/babel.config.config.js", "/babel.config.js", "/app.config.js"] ∧
      ∃ outcome after,
        flatDisk.run (migrate flatContext 3) = (.ok outcome, after) ∧
        flatDisk.run ((migrate flatContext 3).rehearse []) = ((.ok outcome, writes), flatDisk) ∧
        writes.foldlM (fun d w => d.write w.1 w.2) flatDisk = .ok after := by
  have hsource : ((⟨"/"⟩ : Path).join ⟨"."⟩).normalize = ⟨"/"⟩ := by decide
  have hcontext : Context.ofSettings flatSettings ⟨"/"⟩ 3 false = .ok flatContext := by
    rw [Context.ofSettings, flatSettings, hsource]
    rfl
  have htried : ((Disk.store.run (migrate flatContext 3) flatDisk).attempts.map
      fun a => (a.path.text, a.answer))
        = [("/babel.config.js", .ok ()), ("/babel.config.config.js", .ok ()),
            ("/babel.config.js", .ok ()), ("/app.config.js", .ok ())] := by
    decide +kernel
  have haccepted : ∀ a ∈ (Disk.store.run (migrate flatContext 3) flatDisk).attempts,
      a.answer = .ok () := by
    intro a ha
    have hmem := List.mem_map_of_mem (f := fun a : Attempt => (a.path.text, a.answer)) ha
    rw [htried] at hmem
    have hanswer := List.mem_map_of_mem (f := Prod.snd) hmem
    simpa using hanswer
  refine ⟨?_, ?_⟩
  · have hpaths := congrArg (List.map Prod.fst) htried
    rw [List.map_map] at hpaths
    rw [List.map_map]
    exact hpaths
  · exact rehearsal_refines_migration flatSettings ⟨"/"⟩ 3 false flatContext hcontext (by decide)
      (by decide) (by decide) flatDisk 3 haccepted

end Project

end PageConfig
