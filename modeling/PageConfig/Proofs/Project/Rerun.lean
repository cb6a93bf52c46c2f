import PageConfig.Proofs.Disk.Rerun
import PageConfig.Proofs.Project.Overwrites
import PageConfig.Proofs.Project.Rehearsal

/-!
# Migrating twice

A migration is careful: whatever it reads it has found as a script before.  So
it can be run again on the disk that it left, and if it has written nothing
where it had looked, it comes out the same (`migration_rerun_stable`): it has the
same outcome, makes the same writes, and leaves the disk as it is.

"Where it had looked" means places, not paths.  A directory can be given by a
path that goes up and comes down again, and then a file is written under one
path and looked for under another (`migration_rerun_detour`).  If the paths of a
project start at the root, there are no such detours, and it is enough to compare
paths (`Context.Settled.apart`).
-/

namespace PageConfig

namespace Resolve

open PageConfig.Extract (Usage)
open PageConfig.Json (Fields)

variable {asks : Path → Prop} {known : List Path} {l : Lookup} {file : Path}

/-! ### Searches are careful -/

/-- A path of a kind that was told to be a file. -/
structure Told (asks : Path → Prop) (known : List Path) (p : Path) : Prop where
  mem : p ∈ known
  asks : asks p
  canBeFile : p.CanBeFile

/-- A kind of paths that has, with a file, all that a specifier in it can stand for. -/
def Closed (asks : Path → Prop) (platform : Option String) : Prop :=
  ∀ file : Path, asks file → file.CanBeFile → ∀ specifier : String,
    ∀ q ∈ candidates platform (file.parent.join ⟨specifier⟩).normalize, asks q

/-- Plain paths are such a kind, if the platform is no path. -/
lemma closed_plain {platform : Option String} (hplatform : ∀ name ∈ platform, '/' ∉ name.toList) :
    Closed Path.Plain platform := by
  intro file hplain hfile specifier q hq
  obtain ⟨d, hd⟩ := hfile
  have hroot : file ≠ Place.path [] := by
    rintro rfl
    rw [d.isFile_root] at hd
    cases hd
  have hrooted : file.parent.Rooted := hplain.rooted_parent hroot
  exact plain_of_mem_candidates hplatform (hrooted.join _).plain_normalize hq

/-- What is found was told to be a file. -/
lemma careful_firstFile {ps : List Path} (hps : ∀ p ∈ ps, asks p) (known : List Path) :
    (firstFile ps).Careful asks (fun known found? => ∀ p ∈ found?, Told asks known p) known := by
  induction ps with
  | nil => exact .done (by simp)
  | cons p ps ih =>
    have hp : asks p := hps p List.mem_cons_self
    refine .isFile hp (fun hfile => .done ?_) (ih fun q hq => hps q (List.mem_cons_of_mem p hq))
    rintro q ⟨⟩
    exact ⟨List.mem_cons_self, hp, hfile⟩

/-- A scan of what was told to be a file is careful. -/
lemma careful_scanFile (hfile : file ∈ known) :
    (Extract.scanFile file).Careful asks (fun _ _ => True) known := by
  refine .read hfile fun r => ?_
  cases r with
  | ok code => exact .done trivial
  | error r => exact .done trivial

lemma careful_scanned (l : Lookup) (hfile : file ∈ known) :
    (scanned l file).Careful asks (fun _ _ => True) known := by
  refine .andThen (careful_scanFile hfile) fun known r => ?_
  cases r with
  | ok scan => exact .done trivial
  | error e => exact .done trivial

section

variable (hclosed : Closed asks l.platform)
include hclosed

/-- The file of a specifier was told to be a file. -/
lemma careful_target (hfile : asks file) (hcan : file.CanBeFile) (name specifier : String)
    (known : List Path) :
    (target l file name specifier).Careful asks
      (fun known r => ∀ p ∈ r.1, Told asks known p) known := by
  refine .bind (careful_firstFile (hclosed file hfile hcan specifier) known) ?_
  intro known found? hfound
  cases found? with
  | some found => exact .done hfound
  | none => exact .done (by simp)

lemma careful_collect (pageDir : Path) (hfile : asks file) (hcan : file.CanBeFile)
    (declared : Fields) (t : Trail) (known : List Path) :
    (collect l pageDir file declared t).Careful asks (fun _ _ => True) known := by
  induction declared generalizing t known with
  | nil => exact .done trivial
  | cons entry rest ih =>
    rw [collect]
    split
    · exact ih t known
    · split
      · refine .bind (careful_target hclosed hfile hcan _ _ known) fun known r _ => ?_
        obtain ⟨found?, found⟩ := r
        cases found? with
        | some goal => exact ih _ known
        | none => exact ih _ known
      · exact ih _ known

/-- Following components is careful, if following one that was told to be a file is. -/
lemma careful_follow {visit : Path → Trail → Job Trail}
    (hvisit : ∀ known goal t, Told asks known goal →
      (visit goal t).Careful asks (fun _ _ => True) known)
    (hfile : asks file) (hcan : file.CanBeFile) (us : List Usage) (t : Trail) (known : List Path) :
    (follow l visit file us t).Careful asks (fun _ _ => True) known := by
  induction us generalizing t known with
  | nil => exact .done trivial
  | cons u us ih =>
    rw [follow]
    split
    · refine .bind (careful_target hclosed hfile hcan _ _ known) fun known r hr => ?_
      obtain ⟨found?, found⟩ := r
      cases found? with
      | some goal => exact .andThen (hvisit known goal _ (hr goal rfl)) fun known t => ih t known
      | none => exact ih _ known
    · exact ih t known

lemma careful_component (pageDir : Path) (depth : Nat) (known : List Path) (file : Path) (t : Trail)
    (hfile : Told asks known file) :
    (component l pageDir depth file t).Careful asks (fun _ _ => True) known := by
  induction depth generalizing known file t with
  | zero => exact .done trivial
  | succ depth ih =>
    obtain ⟨hmem, hasks, hcan⟩ := hfile
    rw [component]
    split
    · exact .done trivial
    · split
      · exact .done trivial
      · refine .andThen (careful_scanned l hmem) fun known r => ?_
        obtain ⟨scan?, found⟩ := r
        cases scan? with
        | none => exact .done trivial
        | some scan =>
          refine .andThen (careful_collect hclosed pageDir hasks hcan _ _ known) fun known t => ?_
          exact .andThen (careful_follow hclosed ih hasks hcan _ _ known) fun _ _ => .done trivial

lemma careful_page (depth : Nat) (before : List Finding) (hfile : Told asks known file) :
    (page l depth file before).Careful asks (fun _ _ => True) known := by
  obtain ⟨hmem, hasks, hcan⟩ := hfile
  refine .andThen (careful_scanned l hmem) fun known r => ?_
  obtain ⟨scan?, found⟩ := r
  cases scan? with
  | none => exact .done trivial
  | some scan =>
    have hvisit := careful_component hclosed file.parent depth
    exact .andThen (careful_follow hclosed hvisit hasks hcan _ _ known) fun _ _ => .done trivial

end

end Resolve

namespace Project

open PageConfig.Resolve (Closed candidates)

/-! ### Migrations are careful -/

/-- A kind of paths that has all that the migration of a project may ask about. -/
structure Context.Asks (c : Context) (asks : Path → Prop) : Prop where
  package : asks c.packagePath
  types : asks (c.appRoot.join ⟨typesFile⟩)
  build : ∀ q ∈ candidates none (c.appRoot.join ⟨c.settings.projectConfig⟩).normalize, asks q
  entry : ∀ q ∈ candidates c.platform c.entryPath.normalize, asks q
  page : ∀ page, ∀ q ∈ candidates c.platform (c.pagePath page).normalize, asks q
  closed : Closed asks c.lookup.platform

/-- All paths are such a kind. -/
lemma Context.asks_true (c : Context) : c.Asks fun _ => True := by
  constructor <;> simp [Closed]

/-- Plain paths are such a kind for a project whose paths start at the root. -/
lemma Context.Settled.asks_plain {c : Context} (h : c.Settled) : c.Asks Path.Plain where
  package := h.appRoot.join (Path.isName_of_length (by decide) (by decide))
  types := h.appRoot.join (Path.isName_of_length (by decide) (by decide))
  build _ hq := Resolve.plain_of_mem_candidates (by simp)
    (h.appRoot.rooted.join _).plain_normalize hq
  entry _ hq := Resolve.plain_of_mem_candidates h.platform h.rooted_entryPath.plain_normalize hq
  page page _ hq :=
    Resolve.plain_of_mem_candidates h.platform (h.rooted_pagePath page).plain_normalize hq
  closed := Resolve.closed_plain h.platform

lemma careful_writeAll {asks : Path → Prop} (calls : List (Path × String)) (known : List Path) :
    (writeAll calls).Careful asks (fun _ _ => True) known := by
  induction calls with
  | nil => exact .done trivial
  | cons call calls ih =>
    refine .write call.1 call.2 fun r => ?_
    cases r with
    | ok u => exact ih
    | error r => exact .done trivial

section

variable {c : Context} {asks : Path → Prop} (hc : c.Asks asks)
include hc

lemma careful_visitPage (depth : Nat) (page : String) (s : Progress) (known : List Path) :
    (visitPage c depth page s).Careful asks (fun _ _ => True) known := by
  refine .bind (Resolve.careful_firstFile (hc.page page) known) fun known file? hfile => ?_
  cases file? with
  | none => exact .done trivial
  | some file =>
    by_cases hignored : c.isIgnored file = true
    · simp only [hignored, if_true]
      exact .done trivial
    · simp only [hignored]
      refine .andThen (Resolve.careful_page hc.closed depth s.findings (hfile file rfl)) ?_
      intro known r
      obtain ⟨config?, findings⟩ := r
      cases config? with
      | some config => exact .done trivial
      | none => exact .done trivial

lemma careful_visitPages (depth : Nat) (pages : List String) (s : Progress) (known : List Path) :
    (visitPages c depth pages s).Careful asks (fun _ _ => True) known := by
  induction pages generalizing s known with
  | nil => exact .done trivial
  | cons page pages ih =>
    exact .andThen (careful_visitPage hc depth page s known) fun known s => ih s known

lemma careful_migrateApp (depth : Nat) (known : List Path) :
    (migrateApp c depth).Careful asks (fun _ _ => True) known := by
  refine .bind (Resolve.careful_firstFile hc.entry known) fun known file? hfile => ?_
  cases file? with
  | none => exact .done trivial
  | some file =>
    refine .andThen (Resolve.careful_scanFile (hfile file rfl).mem) fun known r => ?_
    cases r with
    | error e => exact .done trivial
    | ok scan =>
      refine .andThen ?_ fun known artifacts => ?_
      · exact .andThen (careful_visitPages hc depth _ .start known) fun _ _ => .done trivial
      · refine .andThen (careful_writeAll artifacts.writes known) fun known r => ?_
        cases r with
        | error fault => exact .done trivial
        | ok u => exact .done trivial

lemma careful_inspectBuild (known : List Path) :
    (inspectBuild c).Careful asks (fun _ _ => True) known := by
  refine .bind (Resolve.careful_firstFile hc.build known) fun known path? hpath => ?_
  cases path? with
  | none => exact .done trivial
  | some path =>
    refine .andThen ?_ fun known inspection => .done trivial
    refine .read (hpath path rfl).mem fun r => ?_
    cases r with
    | ok code => exact .done trivial
    | error r => exact .done trivial

/-- A migration reads only what it was told to be a file. -/
lemma careful_migrate (depth : Nat) : (migrate c depth).Careful asks (fun _ _ => True) [] := by
  refine .andThen (.present hc.package fun b => .done trivial) fun known package => ?_
  cases package with
  | false => exact .done trivial
  | true =>
    refine .andThen (careful_inspectBuild hc known) fun known build => ?_
    by_cases htarget : c.target = fileVersion
    · simp only [htarget, ne_eq, not_true_eq_false, if_false]
      refine .andThen (.isFile hc.types (fun _ => .done trivial) (.done trivial)) ?_
      intro known typed
      refine .andThen (.write _ _ fun r => .done trivial) fun known r => ?_
      cases r with
      | error r => exact .done trivial
      | ok u =>
        refine .andThen (careful_migrateApp hc depth known) fun known r => ?_
        cases r with
        | error fault => exact .done trivial
        | ok app => exact .done trivial
    · simp only [ne_eq, htarget, not_false_eq_true, if_true]
      exact .done trivial

end

/-! ### Projects without detours -/

section

variable {c : Context} {depth : Nat} {f : Files}

/-- The artifacts of a project whose paths start at the root have straight paths. -/
lemma Context.Settled.straight_output (hc : c.Settled) {entry x : Artifact}
    (hentry : c.entryArtifact f = some entry) (hx : x ∈ c.pageArtifacts depth f ++ [entry]) :
    x.output.Straight := by
  have hsource : x.source.Plain := by
    rcases List.mem_append.mp hx with hpage | hlast
    · obtain ⟨page, file, config, hscript, -, rfl⟩ := exists_file_of_mem_pageArtifacts hpage
      exact (Files.holds_of_script hc.platform (hc.rooted_pagePath page) hscript).plain
    · obtain rfl := List.mem_singleton.mp hlast
      obtain ⟨file, hscript, hscan⟩ := Option.bind_eq_some_iff.mp hentry
      obtain ⟨scan, -, rfl⟩ := Option.map_eq_some_iff.mp hscan
      exact (Files.holds_of_script hc.platform hc.rooted_entryPath hscript).plain
  rw [output_eq hentry hx]
  exact hsource.straight.artifact

/-- Whatever its migration writes goes to a straight path. -/
lemma Context.Settled.straight_attempt (hc : c.Settled) {σ : Type} (m : Store σ) (s : σ)
    {a : Attempt} (ha : a ∈ (m.run (migrate c depth) s).attempts) : a.path.Straight := by
  rcases call_cases ha with hcompiler | ⟨entry, hentry, x, hx, hcall⟩
  · have hpath : a.path = (c.compilerCall (m.files s)).1 := congrArg Prod.fst hcompiler
    rw [hpath]
    exact (hc.plain_compiler _).straight
  · have hpath : a.path = x.output := congrArg Prod.fst hcall
    rw [hpath]
    exact hc.straight_output hentry hx

/-- If its migration writes to no path that it asked about, it writes to no place it looked at. -/
lemma Context.Settled.apart (hc : c.Settled) {d : Disk}
    (h : ∀ a ∈ (Disk.store.run (migrate c depth) d).attempts,
      ∀ q ∈ Disk.store.asked (migrate c depth) d, ¬ a.path.same q = true) :
    ∀ a ∈ (Disk.store.run (migrate c depth) d).attempts,
      ∀ q ∈ Disk.store.asked (migrate c depth) d, d.destination a.path ≠ d.destination q := by
  intro a ha q hq heq
  have hcareful := careful_migrate hc.asks_plain depth
  have hplain : q.Plain := Disk.asks_of_mem_asked hcareful (by simp) q hq
  have hstraight : a.path.Straight := hc.straight_attempt Disk.store d ha
  exact h a ha q hq (Disk.same_of_destination hstraight hplain.straight heq)

end

/-! ### Migrations that are run again -/

/-- **A migration that is run again comes out the same.**  Take any context and any disk on which
the migration has an outcome, and let no path that it writes lead to a place to which a path leads
that it asked about: whether something is there, whether it is a file, or for its text.  If the
paths of the project start at the root, it is enough that no path that it writes is one that it
asked about.  Then the migration of the disk that it left has the same outcome, tries the same
writes with the same texts in the same order, and leaves that disk exactly as it is. -/
theorem migration_rerun_stable (c : Context) (depth : Nat) (d : Disk) (outcome : Outcome)
    (houtcome : (Disk.store.run (migrate c depth) d).result = .ok outcome)
    (hapart : (∀ a ∈ (Disk.store.run (migrate c depth) d).attempts,
        ∀ q ∈ Disk.store.asked (migrate c depth) d, d.destination a.path ≠ d.destination q) ∨
      (c.Settled ∧ ∀ a ∈ (Disk.store.run (migrate c depth) d).attempts,
        ∀ q ∈ Disk.store.asked (migrate c depth) d, ¬ a.path.same q = true)) :
    let first := Disk.store.run (migrate c depth) d
    let second := Disk.store.run (migrate c depth) first.final
    second.result = .ok outcome ∧ second.attempts = first.attempts ∧ second.final = first.final ∧
      d.run (migrate c depth) = (.ok outcome, first.final) ∧
      first.final.run (migrate c depth) = (.ok outcome, first.final) := by
  intro first second
  have hfollows := follows_migrate Disk.store c depth d
  have haccepted : ∀ a ∈ first.attempts, a.answer = .ok () := by
    apply hfollows.fault_eq_none_iff.mp
    exact faultOf_eq_none.mpr ⟨outcome, houtcome⟩
  have hplaces := hapart.elim id fun h => h.1.apart h.2
  have hagain : second = first :=
    Disk.run_again (careful_migrate c.asks_true depth) haccepted hplaces
  refine ⟨?_, ?_, ?_, ?_, ?_⟩
  · rw [hagain, houtcome]
  · rw [hagain]
  · rw [hagain]
  · rw [Disk.run_eq, houtcome]
  · have hrun : Disk.store.run (migrate c depth) first.final = first := hagain
    rw [Disk.run_eq, hrun, houtcome]

/-- Whether a migration came to an outcome, and whether it has looked at a build config then. -/
def sawBuild? : Except WriteFault Outcome → Option Bool
  | .ok (.finished summary) => some summary.buildConfig.isSome
  | _ => none

/-- A migration that came to its end has an outcome. -/
lemma exists_outcome {r : Except WriteFault Outcome} {saw : Bool} (h : sawBuild? r = some saw) :
    ∃ outcome, r = .ok outcome := by
  cases r with
  | ok outcome => exact ⟨outcome, rfl⟩
  | error fault => cases h

/-- A disk with a project that lists one page. -/
def pairDisk : Disk where
  entries := [
    (["package.json"], .file (.text "")),
    (["app.js"], .file (.text "class A\x7bconfig=\x7bpages:['a']\x7d\x7d")),
    (["a.js"], .file (.text ""))]
  home := []

/-- The migration of that disk makes three writes, and makes them again. -/
theorem migration_rerun_stable_pair :
    ((Disk.store.run (migrate medleyContext 5) pairDisk).attempts.map fun a => a.path.text)
        = ["/babel.config.js", "/a.config.js", "/app.config.js"] ∧
      ∃ outcome after, pairDisk.run (migrate medleyContext 5) = (.ok outcome, after) ∧
        after.run (migrate medleyContext 5) = (.ok outcome, after) := by
  set first := Disk.store.run (migrate medleyContext 5) pairDisk with hfirst
  obtain ⟨hsaw, hapart, hpaths⟩ : sawBuild? first.result = some false ∧
      (first.attempts.all fun a =>
        (Disk.store.asked (migrate medleyContext 5) pairDisk).all fun q => !a.path.same q) = true ∧
      (first.attempts.map fun a => a.path.text)
        = ["/babel.config.js", "/a.config.js", "/app.config.js"] := by
    decide +kernel
  have hsettled : medleyContext.Settled :=
    ⟨⟨[], Place.named_nil, rfl⟩, Path.rooted_of_isAbsolute (by decide), by decide⟩
  obtain ⟨outcome, houtcome⟩ := exists_outcome hsaw
  obtain ⟨-, -, -, hrun, hagain⟩ := migration_rerun_stable medleyContext 5 pairDisk outcome
    houtcome (Or.inr ⟨hsettled, by simpa using hapart⟩)
  exact ⟨hpaths, outcome, _, hrun, hagain⟩

/-- A disk with a project and no sources. -/
def bareDisk : Disk where
  entries := [(["app"], .directory), (["app", "package.json"], .file (.text "\x7b\x7d"))]
  home := []

/-- A context in which the directory of the project is given by a detour, and the build config has
the name of the compiler config. -/
def detourContext : Context :=
  ⟨{ Settings.default with projectConfig := "babel.config.js" }, ⟨"/app/../app"⟩, ⟨"/app/src"⟩,
    fileVersion, false, []⟩

/-- The compiler config is written under a path that is not asked about, but looked for under
another one: the second run finds it and takes it for the build config. -/
theorem migration_rerun_detour :
    let first := Disk.store.run (migrate detourContext 1) bareDisk
    let second := Disk.store.run (migrate detourContext 1) first.final
    (∃ outcome, first.result = .ok outcome) ∧
      (∀ a ∈ first.attempts, ∀ q ∈ Disk.store.asked (migrate detourContext 1) bareDisk,
        ¬ a.path.same q = true) ∧
      second.result ≠ first.result := by
  intro first second
  obtain ⟨hfirst, hapart, hsecond⟩ : sawBuild? first.result = some false ∧
      (first.attempts.all fun a =>
        (Disk.store.asked (migrate detourContext 1) bareDisk).all fun q => !a.path.same q) = true ∧
      sawBuild? second.result = some true := by
    decide +kernel
  refine ⟨exists_outcome hfirst, by simpa using hapart, ?_⟩
  intro hresult
  rw [hresult, hfirst] at hsecond
  cases hsecond

end Project

end PageConfig
