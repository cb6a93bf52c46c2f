import PageConfig.Path.Normal
import PageConfig.Project.Settings

/-!
# Contexts

The settings of one run, with the places they speak of.
-/

namespace PageConfig.Project

/-- What a run is about. -/
structure Context where
  settings : Settings
  /-- The directory of the project. -/
  appRoot : Path
  /-- The directory of its sources. -/
  sourceRoot : Path
  /-- The major version to migrate to. -/
  target : Nat
  verbose : Bool
  ignores : List Glob
deriving Inhabited

namespace Context

/-- The context of settings for a project in a directory. -/
def ofSettings (s : Settings) (appRoot : Path) (target : Nat) (verbose : Bool) :
    Except Settings.Problem Context := do
  let ignores ← s.patterns
  return ⟨s, appRoot, (appRoot.join ⟨s.sourceRoot⟩).normalize, target, verbose, ignores⟩

/-- The platform whose files are preferred; an empty name is none. -/
def platform (c : Context) : Option String := c.settings.platform.filter fun p => !p.isEmpty

/-- A path as it is shown. -/
def display (c : Context) (p : Path) : String := Path.display c.appRoot p

/-- Whether a file is left alone: patterns look at its path below the sources. -/
def isIgnored (c : Context) (p : Path) : Bool :=
  c.ignores.any fun g => g.isMatch (Path.display c.sourceRoot p)

end Context

end PageConfig.Project
