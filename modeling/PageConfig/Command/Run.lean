import PageConfig.Command.Arguments
import PageConfig.Report.Outcome
import PageConfig.Job.Rehearsal

/-!
# Commands

What the commands do.  A run that was stopped by the state of a project has
said so and succeeds; a command that refuses to run fails, and one that could
not go on is an error.
-/

namespace PageConfig.Command

open PageConfig.Project
open PageConfig.Report (Manner Output Symbols paint)

/-- What a run depends on besides its arguments and the disk. -/
structure Environment where
  /-- The platform named by the environment. -/
  platform : Option String
  color : Bool
  symbols : Symbols
  /-- How deep components are followed. -/
  depth : Nat
deriving Inhabited

/-- How a run ends. -/
structure Reply where
  exit : Nat
  output : Output
deriving DecidableEq, Inhabited

namespace Reply

/-- A run that came to its end. -/
def success (o : Output) : Reply := ⟨0, o⟩

/-- A run that was refused. -/
def failure (o : Output) : Reply := ⟨1, o⟩

/-- A run that could not go on, after some output. -/
def error (before : Output) (message : String) : Reply :=
  ⟨2, before ++ .errorLine ("Error: " ++ message)⟩

end Reply

/-! ### Texts -/

/-- The name and version of the program. -/
def versionText : String := "taro-migrate 0.1.0\n"

/-- What the program can do. -/
def overviewText : String :=
  "Migrate Taro projects: extract page/component config into config artifacts and flatten " ++
  "usingComponents\n\nUsage: taro-migrate [COMMAND]\n\nCommands:\n" ++
  "  migrate  Extract page/component config into config files and flatten usingComponents\n" ++
  "  init     Initialize a new .taromigraterc.json configuration file\n" ++
  "  help     Print this message or the help of the given subcommand(s)\n\nOptions:\n" ++
  "  -h, --help     Print help\n  -V, --version  Print version\n"

/-- What is said about a command line that asks for nothing that can be run. -/
def usageReply : Usage → Reply
  | .help => .success ⟨overviewText, ""⟩
  | .version => .success ⟨versionText, ""⟩
  | .unknownCommand => ⟨2, .errorLine "error: unrecognized subcommand"⟩
  | .unknownArgument => ⟨2, .errorLine "error: unexpected argument"⟩
  | .missingValue => ⟨2, .errorLine "error: a value is required"⟩
  | .badValue => ⟨2, .errorLine "error: invalid value"⟩
  | .extraValue => ⟨2, .errorLine "error: unexpected value"⟩
  | .repeated => ⟨2, .errorLine "error: the argument cannot be used multiple times"⟩

/-! ### Commands -/

/-- Writes a settings file, unless there is one. -/
def init (e : Environment) : Job Reply := do
  let file : Path := ⟨settingsFile⟩
  if ← Job.askPresent file then
    pure (.failure (.errorLine ("Error: " ++ settingsFile ++ " already exists")))
  else
    match ← Job.put file Settings.default.text with
    | .error r => pure (.error .empty (WriteFault.message ⟨file, r⟩))
    | .ok () =>
      pure (.success (.line (paint e.color [.green] e.symbols.success ++ " "
        ++ paint e.color [.green] ("Created " ++ settingsFile))))

/-- A migration, or a rehearsal of one. -/
def attempt (o : Options) (c : Context) (depth : Nat) : Job (Except WriteFault Outcome) :=
  if o.dryRun then Prod.fst <$> (Project.migrate c depth).rehearse [] else Project.migrate c depth

/-- What is said about settings that were not found. -/
def defaultsNote (o : Options) (opened : Opened) : Output :=
  if o.verbose && !opened.fromFile then
    .errorLine ("Note: No " ++ settingsFile ++ " found, using default configuration")
  else .empty

/-- Migrates the project that options speak of. -/
def migrate (e : Environment) (o : Options) : Job Reply := do
  match ← openProject o with
  | .error f => pure (.error .empty f.message)
  | .ok opened =>
    let note := defaultsNote o opened
    match ← attempt o opened.context e.depth with
    | .error f => pure (.error note f.message)
    | .ok outcome =>
      let manner : Manner := ⟨opened.context, o.dryRun, e.color, e.symbols⟩
      pure (.success (note ++ manner.outcome outcome))

/-- Does what a command line asks for. -/
def run (e : Environment) (args : List String) : Job Reply :=
  match request args with
  | .error usage => pure (usageReply usage)
  | .ok .overview => pure (.success ⟨overviewText, ""⟩)
  | .ok .init => init e
  | .ok (.migrate o) => migrate e { o with platform := o.platform.or e.platform }

end PageConfig.Command
