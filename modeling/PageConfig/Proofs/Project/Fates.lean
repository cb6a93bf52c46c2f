import PageConfig.Proofs.Project.Runs
import PageConfig.Proofs.Resolve.Independent

/-!
# What becomes of the pages

The page list of an app is gone through page by page.  A page has one of four
fates: no script stands for it, its file is left alone, its file has no scan, or
it gets an artifact.  The fate is a matter of the files and of the page alone,
and so is what the page adds to the outcome (`ask_visitPages`): nothing a page
adds depends on the pages before it.

Two results follow.  Every position of the page list is accounted for in a
migration that comes to its end (`pages_accounted`), and pages are independent
of each other (`pages_independent`).
-/

namespace PageConfig.Project

open PageConfig.Extract (Scan)
open PageConfig.Json (Value)
open PageConfig.Resolve (configAlone findingsAlone ofSearch)

/-! ### Fates -/

/-- What becomes of a page that is listed. -/
inductive Fate where
  /-- No script stands for the page. -/
  | missing
  /-- The file of the page is left alone. -/
  | ignored (file : Path)
  /-- The file of the page cannot be read or parsed. -/
  | unscanned (file : Path) (error : String)
  /-- The page gets an artifact, taken from its file. -/
  | taken (file : Path)
deriving DecidableEq

namespace Fate

def isMissing : Fate → Bool
  | missing => true
  | _ => false

def isIgnored : Fate → Bool
  | ignored _ => true
  | _ => false

def isUnscanned : Fate → Bool
  | unscanned _ _ => true
  | _ => false

/-- The file that an artifact is taken from. -/
def taken? : Fate → Option Path
  | taken file => some file
  | _ => none

/-- The file that is searched for components. -/
def searched? : Fate → Option Path
  | unscanned file _ => some file
  | taken file => some file
  | _ => none

end Fate

/-- The fate of a page: by the script that stands for it, whether that file is left alone, and
whether it has a scan. -/
def fateOf (f : Files) (c : Context) (page : String) : Fate :=
  match f.script c.platform (c.pagePath page) with
  | none => .missing
  | some file =>
    if c.isIgnored file then .ignored file
    else match f.scan file with
      | .error e => .unscanned file e
      | .ok _ => .taken file

variable {f : Files} {c : Context} {page : String} {file : Path}

lemma fateOf_of_none (h : f.script c.platform (c.pagePath page) = none) :
    fateOf f c page = .missing := by
  rw [fateOf, h]

lemma fateOf_of_ignored (h : f.script c.platform (c.pagePath page) = some file)
    (hignored : c.isIgnored file = true) : fateOf f c page = .ignored file := by
  simp [fateOf, h, hignored]

lemma fateOf_of_error {e : String} (h : f.script c.platform (c.pagePath page) = some file)
    (hignored : c.isIgnored file = false) (hscan : f.scan file = .error e) :
    fateOf f c page = .unscanned file e := by
  simp [fateOf, h, hignored, hscan]

lemma fateOf_of_ok {scan : Scan} (h : f.script c.platform (c.pagePath page) = some file)
    (hignored : c.isIgnored file = false) (hscan : f.scan file = .ok scan) :
    fateOf f c page = .taken file := by
  simp [fateOf, h, hignored, hscan]

/-! ### What a page adds -/

/-- The artifact of a page that is searched alone, if it gets one. -/
def artifactAlone (f : Files) (c : Context) (depth : Nat) (page : String) : Option Artifact :=
  (fateOf f c page).taken?.bind fun file =>
    (configAlone f c.lookup depth file).map (.ofSource file)

/-- The finding for a page without a file. -/
def missingPageAt (c : Context) (page : String) : Finding :=
  .missingPage page (c.display (c.pagePath page))

/-- What is found for a page that is searched alone. -/
def searchFindings (f : Files) (c : Context) (depth : Nat) (page : String) : List Finding :=
  ((fateOf f c page).searched?.map (findingsAlone f c.lookup depth)).getD []

/-- One page adds its part to what came of the pages before it, by its fate. -/
lemma ask_visitPage (f : Files) (c : Context) (depth : Nat) (page : String) (s : Progress) :
    (visitPage c depth page s).ask f
      = ⟨s.artifacts ++ (artifactAlone f c depth page).toList,
          s.ignored ++ (if (fateOf f c page).isIgnored then [page] else []),
          s.missing ++ (if (fateOf f c page).isMissing then [missingPageAt c page] else []),
          s.findings ++ searchFindings f c depth page⟩ := by
  simp only [visitPage, Job.bind_eq, Job.ask_bind, Files.ask_script]
  cases hscript : f.script c.platform (c.pagePath page) with
  | none =>
    simp [artifactAlone, searchFindings, fateOf_of_none hscript, Fate.taken?, Fate.searched?,
      Fate.isIgnored, Fate.isMissing, missingPageAt]
  | some file =>
    cases hignored : c.isIgnored file with
    | true =>
      simp [hignored, artifactAlone, searchFindings, fateOf_of_ignored hscript hignored,
        Fate.taken?, Fate.searched?, Fate.isIgnored, Fate.isMissing]
    | false =>
      have hsome := Resolve.isSome_configAlone f c.lookup depth file
      cases hscan : f.scan file with
      | error e =>
        have hnone : configAlone f c.lookup depth file = none := by
          simpa [hscan, Except.isOk, Except.toBool] using hsome
        simp [hignored, artifactAlone, searchFindings, fateOf_of_error hscript hignored hscan,
          Fate.taken?, Fate.searched?, Fate.isIgnored, Fate.isMissing, Resolve.ask_page, hnone]
      | ok scan =>
        obtain ⟨config, hconfig⟩ : ∃ config, configAlone f c.lookup depth file = some config := by
          rw [hscan] at hsome
          exact Option.isSome_iff_exists.mp hsome
        simp [hignored, artifactAlone, searchFindings, fateOf_of_ok hscript hignored hscan,
          Fate.taken?, Fate.searched?, Fate.isIgnored, Fate.isMissing, Resolve.ask_page, hconfig]

/-- The pages add their parts in order, each as if it were the only one. -/
lemma ask_visitPages (f : Files) (c : Context) (depth : Nat) (pages : List String)
    (s : Progress) :
    (visitPages c depth pages s).ask f
      = ⟨s.artifacts ++ pages.filterMap (artifactAlone f c depth),
          s.ignored ++ pages.filter fun page => (fateOf f c page).isIgnored,
          s.missing ++ (pages.filter fun page => (fateOf f c page).isMissing).map (missingPageAt c),
          s.findings ++ pages.flatMap (searchFindings f c depth)⟩ := by
  induction pages generalizing s with
  | nil => simp [visitPages]
  | cons page pages ih =>
    simp only [visitPages, Job.bind_eq, Job.ask_bind, ask_visitPage, ih]
    congr 1
    · cases hpage : artifactAlone f c depth page with
      | none => simp [List.filterMap_cons_none hpage]
      | some artifact => simp [List.filterMap_cons_some hpage]
    · cases hpage : (fateOf f c page).isIgnored with
      | true => simp [hpage]
      | false => simp [hpage]
    · cases hpage : (fateOf f c page).isMissing with
      | true => simp [hpage]
      | false => simp [hpage]
    · simp

/-- The pages of an app, from the scan of its entry. -/
def Context.pageList (c : Context) (file : Path) (scan : Scan) : PageList :=
  collectPages scan.config (c.display file)

/-- The pages that the entry of an app lists, as the files tell. -/
def Context.listedPages (c : Context) (f : Files) : List String :=
  match f.script c.platform c.entryPath with
  | none => []
  | some file =>
    match f.scan file with
    | .error _ => []
    | .ok scan => (c.pageList file scan).pages

/-- The pages listed are those of the scan of the entry. -/
lemma listedPages_eq {entry : Path} {scan : Scan}
    (hfile : f.script c.platform c.entryPath = some entry) (hscan : f.scan entry = .ok scan) :
    c.listedPages f = (c.pageList entry scan).pages := by
  simp [Context.listedPages, hfile, hscan]

/-- What a migration produces from its page list. -/
lemma ask_produce (f : Files) (c : Context) (depth : Nat) (file : Path) (scan : Scan) :
    let pages := (c.pageList file scan).pages
    (produce c depth file scan).ask f
      = ⟨.ofSource file scan.config, pages.filterMap (artifactAlone f c depth),
          pages.filter fun page => (fateOf f c page).isIgnored,
          Resolve.omissions c.lookup file scan.omitted ++ (c.pageList file scan).findings
            ++ (pages.filter fun page => (fateOf f c page).isMissing).map (missingPageAt c)
            ++ pages.flatMap (searchFindings f c depth)⟩ := by
  simp [produce, ask_visitPages, Progress.start, Context.pageList]

/-- The artifact of a page comes from its file, and every page that is taken has one. -/
lemma map_artifactAlone (f : Files) (c : Context) (depth : Nat) (page : String) :
    (artifactAlone f c depth page).map (fun a => (a.source, a.output))
      = (fateOf f c page).taken?.map fun file => (file, file.artifact) := by
  rw [artifactAlone]
  cases hscript : f.script c.platform (c.pagePath page) with
  | none => simp [fateOf_of_none hscript, Fate.taken?]
  | some file =>
    cases hignored : c.isIgnored file with
    | true => simp [fateOf_of_ignored hscript hignored, Fate.taken?]
    | false =>
      cases hscan : f.scan file with
      | error e => simp [fateOf_of_error hscript hignored hscan, Fate.taken?]
      | ok scan =>
        have hsome := Resolve.isSome_configAlone f c.lookup depth file
        rw [hscan] at hsome
        obtain ⟨config, hconfig⟩ := Option.isSome_iff_exists.mp hsome
        simp [fateOf_of_ok hscript hignored hscan, Fate.taken?, hconfig, Artifact.ofSource]

/-- A page without a scan is found to have none. -/
lemma mem_searchFindings_of_unscanned {e : String} (h : fateOf f c page = .unscanned file e)
    (depth : Nat) : .parseError (c.display file) e ∈ searchFindings f c depth page := by
  have hscan : f.scan file = .error e := by
    unfold fateOf at h
    split at h
    · cases h
    · split at h
      · cases h
      · split at h
        · rename_i hscan
          cases h
          exact hscan
        · cases h
  have hfound : findingsAlone f c.lookup depth file = [.parseError (c.display file) e] := by
    rw [findingsAlone, Resolve.ask_page_of_error hscan]
    rfl
  simp [searchFindings, h, Fate.searched?, hfound]

/-! ### Every page is accounted for -/

/-- A finding for a page without a file. -/
def isMissingPage : Finding → Bool
  | .missingPage _ _ => true
  | _ => false

/-- A finding about files and their components is none about a page without a file. -/
lemma isMissingPage_of_ofSearch {x : Finding} (h : ofSearch x = true) :
    isMissingPage x = false := by
  cases x with
  | missingPage page tried => cases h
  | _ => rfl

/-- All findings of a page list are about the entry. -/
def AboutEntry (entry : String) (list : PageList) : Prop :=
  ∀ x ∈ list.findings, ∃ reason, x = .invalidEntry entry reason

namespace AboutEntry

variable {entry : String} {list : PageList}

lemma invalid (h : AboutEntry entry list) (reason : String) :
    AboutEntry entry (list.invalid entry reason) := by
  intro x hx
  rcases List.mem_append.mp hx with hx | hx
  · exact h x hx
  · exact ⟨reason, by simpa using hx⟩

lemma pushNew (h : AboutEntry entry list) (page : String) :
    AboutEntry entry (list.pushNew page) := by
  unfold PageList.pushNew
  split
  · exact h
  · exact h

lemma addPages (h : AboutEntry entry list) (i : Nat) (items : List Value) :
    AboutEntry entry (PageList.addPages entry i items list) := by
  induction items generalizing i list with
  | nil => exact h
  | cons v vs ih =>
    apply ih
    split
    · exact h
    · exact h.invalid _

lemma addSubpages (h : AboutEntry entry list) (package : Nat) (root : String) (i : Nat)
    (items : List Value) :
    AboutEntry entry (PageList.addSubpages entry package root i items list) := by
  induction items generalizing i list with
  | nil => exact h
  | cons v vs ih =>
    apply ih
    split
    · exact h.pushNew _
    · exact h.invalid _

lemma addPackage (h : AboutEntry entry list) (i : Nat) (v : Value) :
    AboutEntry entry (PageList.addPackage entry i v list) := by
  unfold PageList.addPackage
  split
  · exact h.invalid _
  · split
    · exact h
    · exact h.addSubpages i _ 0 _

lemma addPackages (h : AboutEntry entry list) (i : Nat) (items : List Value) :
    AboutEntry entry (PageList.addPackages entry i items list) := by
  induction items generalizing i list with
  | nil => exact h
  | cons v vs ih => exact ih (h.addPackage i v) (i + 1)

end AboutEntry

/-- What is found while pages are collected is about the entry. -/
lemma aboutEntry_collectPages (config : Value) (entry : String) :
    AboutEntry entry (collectPages config entry) := by
  have hnone : AboutEntry entry ⟨[], []⟩ := by
    intro x hx
    cases hx
  apply AboutEntry.addPackages
  unfold PageList.addMain
  split
  · exact hnone.addPages 0 _
  · exact hnone.invalid _

/-- Among the findings of a migration, those for pages without a file are the ones that the pages
add. -/
lemma filter_findings (f : Files) (c : Context) (depth : Nat) (file : Path) (scan : Scan) :
    ((produce c depth file scan).ask f).findings.filter isMissingPage
      = ((c.pageList file scan).pages.filter fun page => (fateOf f c page).isMissing).map
          (missingPageAt c) := by
  have homitted : (Resolve.omissions c.lookup file scan.omitted).filter isMissingPage = [] := by
    rw [List.filter_eq_nil_iff]
    intro x hx
    simp [isMissingPage_of_ofSearch (Resolve.ofSearch_of_mem_omissions hx)]
  have hlist : (c.pageList file scan).findings.filter isMissingPage = [] := by
    rw [List.filter_eq_nil_iff]
    intro x hx
    obtain ⟨reason, rfl⟩ := aboutEntry_collectPages scan.config (c.display file) x hx
    simp [isMissingPage]
  have hsearch : ((c.pageList file scan).pages.flatMap (searchFindings f c depth)).filter
      isMissingPage = [] := by
    rw [List.filter_eq_nil_iff]
    intro x hx
    obtain ⟨page, -, hx⟩ := List.mem_flatMap.mp hx
    unfold searchFindings at hx
    cases hfile : (fateOf f c page).searched? with
    | none => simp [hfile] at hx
    | some file =>
      rw [hfile] at hx
      simp [isMissingPage_of_ofSearch (Resolve.ofSearch_of_mem_findingsAlone hx)]
  have hmissing : ∀ pages : List String,
      (pages.map (missingPageAt c)).filter isMissingPage = pages.map (missingPageAt c) := by
    intro pages
    rw [List.filter_eq_self]
    intro x hx
    obtain ⟨page, -, rfl⟩ := List.mem_map.mp hx
    rfl
  rw [ask_produce]
  simp only [List.filter_append, homitted, hlist, hsearch, hmissing, List.nil_append,
    List.append_nil]

/-- Every page has one fate, so the pages of each fate add up to the list. -/
lemma length_fates (f : Files) (c : Context) (pages : List String) :
    (pages.filterMap fun page => (fateOf f c page).taken?).length
        + (pages.filter fun page => (fateOf f c page).isIgnored).length
        + (pages.filter fun page => (fateOf f c page).isMissing).length
        + pages.countP (fun page => (fateOf f c page).isUnscanned)
      = pages.length := by
  induction pages with
  | nil => rfl
  | cons page pages ih =>
    -- whatever its fate, the page is counted once
    cases hfate : fateOf f c page <;>
      simp [hfate, Fate.taken?, Fate.isIgnored, Fate.isMissing, Fate.isUnscanned] at ih ⊢ <;>
      omega

/-- **No page is lost or counted twice.**  Let a migration of the app come to its end.  Each
position of the page list has one fate, told by the files it started from, and

* the findings for pages without a file are those of the pages that are missing, one for each, in
  order, with the page as it is listed;
* the pages that are ignored are those whose file is left alone, in order;
* a page whose file has no scan is found to have none;
* the artifacts are those of the other pages, one for each, in order, taken from the file of the
  page and put beside it.

So the pages of the four fates add up to the page list. -/
theorem pages_accounted {σ : Type} (m : Store σ) (c : Context) (depth : Nat) (s : σ)
    (a : Artifacts) (hrun : (m.run (migrateApp c depth) s).result = .ok (.migrated a)) :
    let pages := c.listedPages (m.files s)
    let fate := fateOf (m.files s) c
    a.findings.filter isMissingPage
        = (pages.filter fun page => (fate page).isMissing).map
            (fun page => .missingPage page (c.display (c.pagePath page))) ∧
      a.ignored = pages.filter (fun page => (fate page).isIgnored) ∧
      (∀ page ∈ pages, ∀ file e, fate page = .unscanned file e →
        .parseError (c.display file) e ∈ a.findings) ∧
      a.pages.map (fun artifact => (artifact.source, artifact.output))
        = pages.filterMap (fun page => (fate page).taken?.map fun file => (file, file.artifact)) ∧
      a.pages.length + a.ignored.length + a.findings.countP isMissingPage
          + pages.countP (fun page => (fate page).isUnscanned)
        = pages.length := by
  obtain ⟨entry, scan, hfile, hscan, rfl⟩ := migrated_inv m hrun
  intro pages fate
  have hpages : pages = (c.pageList entry scan).pages := listedPages_eq hfile hscan
  have hmissing := filter_findings (m.files s) c depth entry scan
  rw [← hpages] at hmissing
  have hartifacts : ((produce c depth entry scan).ask (m.files s)).pages
      = pages.filterMap (artifactAlone (m.files s) c depth) := by
    rw [ask_produce, ← hpages]
  have hignored : ((produce c depth entry scan).ask (m.files s)).ignored
      = pages.filter fun page => (fate page).isIgnored := by
    rw [ask_produce, ← hpages]
  have htaken : (pages.filterMap (artifactAlone (m.files s) c depth)).map
      (fun artifact => (artifact.source, artifact.output))
        = pages.filterMap fun page => (fate page).taken?.map fun file => (file, file.artifact) := by
    rw [List.map_filterMap]
    congr 1
    funext page
    exact map_artifactAlone (m.files s) c depth page
  refine ⟨hmissing, hignored, ?_, ?_, ?_⟩
  · intro page hpage file e hfate
    rw [ask_produce, ← hpages]
    refine List.mem_append_right _ (List.mem_flatMap.mpr ⟨page, hpage, ?_⟩)
    exact mem_searchFindings_of_unscanned hfate depth
  · rw [hartifacts, htaken]
  · have hlength : ((produce c depth entry scan).ask (m.files s)).pages.length
        = (pages.filterMap fun page => (fate page).taken?).length := by
      have hcount := congrArg List.length htaken
      rw [List.length_map, ← List.map_filterMap, List.length_map] at hcount
      rw [hartifacts, hcount]
    rw [hlength, hignored, List.countP_eq_length_filter, hmissing, List.length_map]
    exact length_fates (m.files s) c pages

/-- An app with a page of every fate, one of them listed twice. -/
def medley : Files :=
  .ofTexts [
    (⟨"/app.js"⟩, "class A\x7bconfig=\x7bpages:['a','n','b','x','a']\x7d\x7d"),
    (⟨"/a.js"⟩, ""), (⟨"/b.js"⟩, ""), (⟨"/x.js"⟩, "(")]

/-- Pages that start with a `b` are left alone. -/
def medleyContext : Context :=
  ⟨{ Settings.default with sourceRoot := "." }, ⟨"/"⟩, ⟨"/"⟩, fileVersion, false,
    [⟨"b*", [.char 'b', .sequence]⟩]⟩

/-- Whether a migration of the app came to its end. -/
def isMigrated : Except WriteFault AppOutcome → Bool
  | .ok (.migrated _) => true
  | _ => false

/-- A migration that came to its end has artifacts. -/
lemma exists_artifacts {r : Except WriteFault AppOutcome} (h : isMigrated r = true) :
    ∃ a, r = .ok (.migrated a) := by
  unfold isMigrated at h
  split at h
  · exact ⟨_, rfl⟩
  · cases h

/-- The five positions of the medley are accounted for: two artifacts, and one page of each other
fate. -/
theorem pages_accounted_medley :
    (medleyContext.listedPages medley).map (fateOf medley medleyContext)
        = [.taken ⟨"/a.js"⟩, .missing, .ignored ⟨"/b.js"⟩,
            .unscanned ⟨"/x.js"⟩ "Expression expected (at 1:2)",
            .taken ⟨"/a.js"⟩] ∧
      ∃ a, (medley.rehearsal.run (migrateApp medleyContext 5) []).result = .ok (.migrated a) ∧
        a.ignored = (medleyContext.listedPages (medley.overlay [])).filter
          (fun page => (fateOf (medley.overlay []) medleyContext page).isIgnored) ∧
        a.pages.length + a.ignored.length + a.findings.countP isMissingPage
            + (medleyContext.listedPages (medley.overlay [])).countP
                (fun page => (fateOf (medley.overlay []) medleyContext page).isUnscanned)
          = (medleyContext.listedPages (medley.overlay [])).length := by
  obtain ⟨a, ha⟩ := exists_artifacts
    (r := (medley.rehearsal.run (migrateApp medleyContext 5) []).result) (by decide +kernel)
  obtain ⟨-, hignored, -, -, hsum⟩ := pages_accounted medley.rehearsal medleyContext 5 [] a ha
  exact ⟨by decide +kernel, a, ha, hignored, hsum⟩

/-! ### Pages are independent -/

/-- The artifacts of a migration that came to its end are those of the pages alone. -/
lemma migrated_pages {σ : Type} {m : Store σ} {c : Context} {depth : Nat} {s : σ} {a : Artifacts}
    (hrun : (m.run (migrateApp c depth) s).result = .ok (.migrated a)) :
    a.pages = (c.listedPages (m.files s)).filterMap (artifactAlone (m.files s) c depth) := by
  obtain ⟨entry, scan, hfile, hscan, rfl⟩ := migrated_inv m hrun
  rw [ask_produce, listedPages_eq hfile hscan]

/-- **Pages are independent.**  Files that are searched one after another, with one list of
findings, get the configs that each gets alone, and the findings are those of each alone, in order.
So the order of the page list does not matter: if the pages are listed in another order, the same
artifacts are produced in another order.  The same goes for two migrations of the app that come to
their ends, on whatever files, if the pages that one lists are those that the other lists in another
order, and each of them has the same artifact alone on both sides. -/
theorem pages_independent (depth : Nat) :
    (∀ (f : Files) (l : Resolve.Lookup) (files : List Path),
      (Resolve.pages l depth files []).ask f
        = (files.map fun file => ((Resolve.page l depth file []).ask f).1,
            files.flatMap fun file => ((Resolve.page l depth file []).ask f).2)) ∧
    (∀ (f : Files) (c : Context) (file file' : Path) (scan scan' : Scan),
      (c.pageList file scan).pages.Perm (c.pageList file' scan').pages →
        ((produce c depth file scan).ask f).pages.Perm
          ((produce c depth file' scan').ask f).pages) ∧
    ∀ (σ τ : Type) (m : Store σ) (n : Store τ) (s : σ) (t : τ) (c : Context) (a b : Artifacts),
      (m.run (migrateApp c depth) s).result = .ok (.migrated a) →
      (n.run (migrateApp c depth) t).result = .ok (.migrated b) →
      (c.listedPages (m.files s)).Perm (c.listedPages (n.files t)) →
      (∀ page ∈ c.listedPages (m.files s),
        artifactAlone (m.files s) c depth page = artifactAlone (n.files t) c depth page) →
      a.pages.Perm b.pages := by
  refine ⟨?_, ?_, ?_⟩
  · intro f l files
    exact Resolve.ask_pages f l depth files []
  · intro f c file file' scan scan' hperm
    rw [ask_produce, ask_produce]
    exact hperm.filterMap (artifactAlone f c depth)
  · intro σ τ m n s t c a b ha hb hperm hsame
    rw [migrated_pages ha, migrated_pages hb, List.filterMap_congr hsame]
    exact hperm.filterMap (artifactAlone (n.files t) c depth)

/-- Two pages that use the same component. -/
def twins : Files :=
  .ofTexts [
    (⟨"/a.js"⟩, "import C from './c'\n<C/>"),
    (⟨"/d.js"⟩, "import C from './c'\n<C/>"),
    (⟨"/c.js"⟩, "class C\x7bconfig=\x7busingComponents:\x7bx:'y'\x7d\x7d\x7d")]

/-- The scan of an entry that lists pages. -/
def listing (pages : List String) : Scan :=
  ⟨.object [("pages", .array (pages.map .string))], [], []⟩

/-- What is written for an entry that lists pages of the twins, without the entry itself. -/
def twinWrites (pages : List String) : List (Path × String) :=
  ((produce medleyContext 5 ⟨"/app.js"⟩ (listing pages)).ask twins).pages.map fun a =>
    (a.output, a.text)

/-- Listed the other way round, the twins get the same artifacts the other way round. -/
theorem pages_independent_twins :
    twinWrites ["a", "d"]
        = [(⟨"/a.config.js"⟩,
              "export default \x7b\n  \"usingComponents\": \x7b\n    \"x\": \"y\"\n  \x7d\n\x7d"),
            (⟨"/d.config.js"⟩,
              "export default \x7b\n  \"usingComponents\": \x7b\n    \"x\": \"y\"\n  \x7d\n\x7d")] ∧
      (twinWrites ["a", "d"]).Perm (twinWrites ["d", "a"]) := by
  refine ⟨by decide +kernel, ?_⟩
  have hperm : (medleyContext.pageList ⟨"/app.js"⟩ (listing ["a", "d"])).pages.Perm
      (medleyContext.pageList ⟨"/app.js"⟩ (listing ["d", "a"])).pages := by
    decide +kernel
  exact ((pages_independent 5).2.1 twins medleyContext _ _ _ _ hperm).map _

end PageConfig.Project
