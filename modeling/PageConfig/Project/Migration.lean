import PageConfig.Project.BuildConfig
import PageConfig.Project.Context
import PageConfig.Project.Pages
import PageConfig.Resolve.Component

/-!
# Migrations

A migration checks that there is a project, looks at its build config, writes
a compiler config, and takes the configs of the entry and of every page out of
the sources into files of their own.  All pages are resolved before the first
artifact is written; page artifacts are written in the order of the pages, and
the entry's goes last.  The first write that fails ends the run.
-/

namespace PageConfig.Project

open PageConfig.Extract (Scan)
open PageConfig.Json (Value)
open PageConfig.Resolve (Lookup)

/-- A config file that is written: the source it is taken from, its path and the config. -/
structure Artifact where
  source : Path
  output : Path
  config : Value
deriving Inhabited

namespace Artifact

/-- The artifact of a source file. -/
def ofSource (source : Path) (config : Value) : Artifact := ⟨source, source.artifact, config⟩

/-- The text of a config file. -/
def render (config : Value) : String := "export default " ++ config.pretty

/-- The text of an artifact. -/
def text (a : Artifact) : String := render a.config

end Artifact

/-- What a completed migration of an app produced. -/
structure Artifacts where
  entry : Artifact
  /-- In the order of the page list. -/
  pages : List Artifact
  /-- Pages that were left alone. -/
  ignored : List String
  findings : List Finding
deriving Inhabited

/-- How the migration of an app ended. -/
inductive AppOutcome where
  | missingEntry (expected : Path)
  | unparsedEntry (file error : String)
  | migrated (artifacts : Artifacts)
deriving Inhabited

/-- What a run over a project did. -/
structure Summary where
  target : Nat
  /-- Nothing if there is no build config. -/
  buildConfig : Option Inspection
  /-- The path of the compiler config, if one was written. -/
  compilerConfig : Option Path
  /-- Nothing if the target version has no file migration. -/
  app : Option AppOutcome
deriving Inhabited

/-- How a run over a project ended. -/
inductive Outcome where
  | missingPackage (expected : Path)
  | finished (summary : Summary)
deriving Inhabited

/-! ### Writing -/

/-- A write that failed. -/
structure WriteFault where
  path : Path
  refusal : Refusal
deriving DecidableEq, Inhabited

/-- The fault in words. -/
def WriteFault.message (f : WriteFault) : String :=
  "Failed to write file: " ++ f.path.text ++ ": " ++ f.refusal.words

/-- Writes files one after another, up to the first failure. -/
def writeAll : List (Path × String) → Job (Except WriteFault Unit)
  | [] => pure (.ok ())
  | (p, text) :: rest => do
    match ← Job.put p text with
    | .ok () => writeAll rest
    | .error r => pure (.error ⟨p, r⟩)

/-! ### Pages -/

/-- What came of the pages so far. -/
structure Progress where
  artifacts : List Artifact
  ignored : List String
  /-- Pages without a file. -/
  missing : List Finding
  /-- What resolving the pages found. -/
  findings : List Finding
deriving Inhabited

/-- Nothing done yet. -/
def Progress.start : Progress := ⟨[], [], [], []⟩

/-- How the components of a project are looked up. -/
def Context.lookup (c : Context) : Lookup := ⟨c.platform, c.appRoot⟩

/-- The path of a page of the app. -/
def Context.pagePath (c : Context) (page : String) : Path :=
  (c.sourceRoot.join ⟨String.ofList (page.toList.dropWhile (· = '/'))⟩).normalize

/-- What is done about one page. -/
def visitPage (c : Context) (depth : Nat) (page : String) (s : Progress) : Job Progress := do
  let logical := c.pagePath page
  match ← Resolve.script c.platform logical with
  | none => pure { s with missing := s.missing ++ [.missingPage page (c.display logical)] }
  | some file =>
    if c.isIgnored file then pure { s with ignored := s.ignored ++ [page] }
    else do
      let (config?, findings) ← Resolve.page c.lookup depth file s.findings
      let s := { s with findings := findings }
      match config? with
      | some config => pure { s with artifacts := s.artifacts ++ [.ofSource file config] }
      | none => pure s

/-- What is done about the pages in order. -/
def visitPages (c : Context) (depth : Nat) : List String → Progress → Job Progress
  | [], s => pure s
  | page :: pages, s => do visitPages c depth pages (← visitPage c depth page s)

/-! ### The app -/

/-- The path of the entry of the app. -/
def Context.entryPath (c : Context) : Path := (c.sourceRoot.join ⟨c.settings.entry⟩).normalize

/-- What a migration of the app produces, given the file and the scan of its entry. -/
def produce (c : Context) (depth : Nat) (file : Path) (scan : Scan) : Job Artifacts := do
  let shown := c.display file
  let list := collectPages scan.config shown
  let s ← visitPages c depth list.pages .start
  let found := Resolve.omissions c.lookup file scan.omitted ++ list.findings
  pure ⟨.ofSource file scan.config, s.artifacts, s.ignored, found ++ s.missing ++ s.findings⟩

/-- The writes of a migration: the pages, then the entry. -/
def Artifacts.writes (a : Artifacts) : List (Path × String) :=
  (a.pages ++ [a.entry]).map fun artifact => (artifact.output, artifact.text)

/-- Migrates the app of a project. -/
def migrateApp (c : Context) (depth : Nat) : Job (Except WriteFault AppOutcome) := do
  match ← Resolve.script c.platform c.entryPath with
  | none => pure (.ok (.missingEntry c.entryPath))
  | some file =>
    match ← Extract.scanFile file with
    | .error e => pure (.ok (.unparsedEntry (c.display file) e))
    | .ok scan => do
      let artifacts ← produce c depth file scan
      match ← writeAll artifacts.writes with
      | .error f => pure (.error f)
      | .ok () => pure (.ok (.migrated artifacts))

/-! ### The project -/

/-- The file that marks a project. -/
def packageFile : String := "package.json"

/-- The compiler config of a project. -/
def compilerFile : String := "babel.config.js"

/-- The file that marks a project with types. -/
def typesFile : String := "tsconfig.json"

/-- Looks at the build config of a project, if it has one. -/
def inspectBuild (c : Context) : Job (Option Inspection) := do
  match ← Resolve.script none (c.appRoot.join ⟨c.settings.projectConfig⟩) with
  | some path => return some (← inspect path c.target)
  | none => pure none

/-- Migrates a project, following components to a given depth. -/
def migrate (c : Context) (depth : Nat) : Job (Except WriteFault Outcome) := do
  let package := c.appRoot.join ⟨packageFile⟩
  if ← Job.askPresent package then
    let build ← inspectBuild c
    if c.target ≠ fileVersion then
      pure (.ok (.finished ⟨c.target, build, none, none⟩))
    else
      let typed ← Job.askFile (c.appRoot.join ⟨typesFile⟩)
      let compiler := c.appRoot.join ⟨compilerFile⟩
      match ← Job.put compiler (babelConfig c.settings.framework typed) with
      | .error r => pure (.error ⟨compiler, r⟩)
      | .ok () =>
        match ← migrateApp c depth with
        | .error f => pure (.error f)
        | .ok app => pure (.ok (.finished ⟨c.target, build, some compiler, some app⟩))
  else pure (.ok (.missingPackage package))

end PageConfig.Project
