import PageConfig.Project.Context
import PageConfig.Project.Settings.Reader
import PageConfig.Job.Basic

/-!
# Where settings come from

The settings of a project stand in a file in its directory or in one above,
but not above the directory of its repository.  Options of a run go before
the file, and the file before the defaults.
-/

namespace PageConfig.Project

/-- The name of the settings file. -/
def settingsFile : String := ".taromigraterc.json"

/-- What marks the directory of a repository. -/
def repositoryMark : String := ".git"

/-- The first settings file in some directories, looked for up to one that is a repository. -/
def locateIn : List Path → Job (Option Path)
  | [] => pure none
  | dir :: dirs => do
    let file := dir.join ⟨settingsFile⟩
    if ← Job.askPresent file then pure (some file)
    else if ← Job.askPresent (dir.join ⟨repositoryMark⟩) then pure none
    else locateIn dirs

/-- The settings file for a directory. -/
def locate (dir : Path) : Job (Option Path) := locateIn dir.ancestors

/-- Why settings could not be loaded. -/
inductive LoadFault where
  | unreadable (r : Refusal)
  | malformed (file : Path) (text : String) (fault : Json.Fault)
  | refused (p : Settings.Problem)
deriving Inhabited

/-- The fault in words. -/
def LoadFault.message : LoadFault → String
  | unreadable r => r.words
  | malformed file text fault =>
    "Failed to parse config file: " ++ Text.listing file.text ++ ": " ++ fault.message text
  | refused p => p.message

/-- Settings, and whether they come from a file. -/
structure Loaded where
  settings : Settings
  fromFile : Bool
deriving Inhabited

/-- The settings in the text of a file. -/
def settingsOf (file : Path) (text : String) : Except LoadFault Settings := do
  let s ← (Settings.read text).mapError (LoadFault.malformed file text)
  s.check.mapError LoadFault.refused
  pure s

/-- The settings for a directory. -/
def load (dir : Path) : Job (Except LoadFault Loaded) := do
  match ← locate dir with
  | none => pure (.ok ⟨.default, false⟩)
  | some file =>
    match ← Job.askText file with
    | .error r => pure (.error (.unreadable r))
    | .ok text => pure ((settingsOf file text).map fun s => ⟨s, true⟩)

/-! ### Options -/

/-- What a run can be told. -/
structure Options where
  appRoot : Option String
  sourceRoot : Option String
  target : Nat
  platform : Option String
  dryRun : Bool
  verbose : Bool
deriving DecidableEq, Inhabited

/-- Settings with what a run was told in their place. -/
def Options.applyTo (o : Options) (s : Settings) : Settings :=
  { s with sourceRoot := o.sourceRoot.getD s.sourceRoot, platform := o.platform.or s.platform }

/-- Why there is no context. -/
inductive OpenFault where
  | noRoot (typed : String) (r : Refusal)
  | load (f : LoadFault)
  | refused (p : Settings.Problem)
deriving Inhabited

/-- The fault in words. -/
def OpenFault.message : OpenFault → String
  | noRoot typed r => "App root not found: " ++ typed ++ ": " ++ r.words
  | load f => f.message
  | refused p => p.message

/-- A context, and whether its settings come from a file. -/
structure Opened where
  context : Context
  fromFile : Bool
deriving Inhabited

/-- The context of a run with options. -/
def openProject (o : Options) : Job (Except OpenFault Opened) := do
  let typed := o.appRoot.getD "."
  match ← Job.askCanonical ⟨typed⟩ with
  | .error r => pure (.error (.noRoot typed r))
  | .ok root =>
    match ← load root with
    | .error f => pure (.error (.load f))
    | .ok loaded =>
      match Context.ofSettings (o.applyTo loaded.settings) root o.target o.verbose with
      | .error p => pure (.error (.refused p))
      | .ok context => pure (.ok ⟨context, loaded.fromFile⟩)

end PageConfig.Project
