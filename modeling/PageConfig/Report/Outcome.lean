import PageConfig.Project.Migration
import PageConfig.Report.Findings

/-!
# Reports

What a run tells the user, on its two channels: what it did, and what it could
not do.
-/

namespace PageConfig.Report

open PageConfig.Project

/-- What is written to the two channels. -/
structure Output where
  out : String
  err : String
deriving DecidableEq, Inhabited

namespace Output

/-- Nothing. -/
def empty : Output := ⟨"", ""⟩

/-- One output after another. -/
def append (a b : Output) : Output := ⟨a.out ++ b.out, a.err ++ b.err⟩

instance : Append Output := ⟨append⟩

/-- A line on the first channel. -/
def line (s : String) : Output := ⟨s ++ "\n", ""⟩

/-- A line on the second channel. -/
def errorLine (s : String) : Output := ⟨"", s ++ "\n"⟩

/-- Outputs in order. -/
def all (os : List Output) : Output := os.foldl append empty

end Output

/-- How a report is written. -/
structure Manner where
  context : Context
  dryRun : Bool
  color : Bool
  symbols : Symbols
deriving Inhabited

/-- Where the guide is. -/
def guide : String := "https://nervjs.github.io/taro/docs/next/migration"

namespace Manner

/-- Text in styles. -/
def paint (m : Manner) (styles : List Style) (text : String) : String :=
  Report.paint m.color styles text

/-- The heading of a step. -/
def heading (m : Manner) (text : String) : Output := .line (m.paint [.underline] text)

/-- A line about something that went wrong for good. -/
def fatal (m : Manner) (text : String) : Output :=
  .errorLine (m.paint [.red] (m.symbols.error ++ " " ++ text))

/-- A line about something that went well. -/
def success (m : Manner) (text : String) : Output :=
  .line (m.paint [.green] (m.symbols.success ++ " " ++ text))

/-- A line that warns. -/
def warning (m : Manner) (text : String) : Output :=
  .line (m.paint [.yellow] (m.symbols.warning ++ " " ++ text))

/-- A line that only tells. -/
def info (m : Manner) (text : String) : Output := .line (m.symbols.info ++ " " ++ text)

/-- A line about a file that was written, or would be. -/
def written (m : Manner) (path : Path) : Output :=
  let shown := m.context.display path
  if m.dryRun then m.info ("Would generate " ++ shown) else m.success ("Generated " ++ shown)

/-! ### The steps -/

/-- What was seen in the build config. -/
def buildConfig (m : Manner) : Option Inspection → Output
  | none =>
    m.heading ("[1] Project config: " ++ m.context.settings.projectConfig)
      ++ m.info "no project config found, skipped"
  | some i =>
    m.heading ("[1] Project config: " ++ m.context.display i.path)
      ++ match i.failure with
        | some e => m.warning ("project config could not be parsed: " ++ e)
        | none =>
          if i.advisories.isEmpty then m.success "nothing to adjust"
          else .all (i.advisories.map fun a =>
            m.warning (a.message m.context.settings.framework))

/-- The files that were written, the pages left alone, and the findings. -/
def artifacts (m : Manner) (a : Artifacts) : Output :=
  let shown := visible m.context.verbose a.findings
  .all ((a.pages ++ [a.entry]).map fun artifact => m.written artifact.output)
    ++ .all (a.ignored.map fun page => m.info (page ++ " ignored"))
    ++ ⟨if shown.isEmpty then "" else "\n" ++ findingsText m.color shown,
        hiddenHint m.color (a.findings.length - shown.length)⟩

/-- How the migration of the app ended. -/
def app (m : Manner) (target : Nat) : AppOutcome → Output
  | .missingEntry expected =>
    m.fatal ("app entry " ++ m.context.display expected ++ " not found, please check")
  | .unparsedEntry file e =>
    ⟨findingText m.color (.parseError file e), ""⟩
      ++ m.fatal ("app entry " ++ file ++ " could not be parsed, no config files generated")
  | .migrated a =>
    m.artifacts a ++ .line "" ++ m.success ("Taro " ++ toString target
      ++ " file migration finished. Source code was not changed, see the migration guide " ++ guide)

/-- What a run over a project did. -/
def summary (m : Manner) (s : Summary) : Output :=
  .line ("Migrating to Taro " ++ toString s.target ++ "...") ++ .line ""
    ++ m.buildConfig s.buildConfig ++ .line ""
    ++ match s.app with
      | none =>
        m.info ("file migration applies to Taro " ++ toString fileVersion
          ++ " only, nothing else to do")
      | some outcome =>
        m.heading ("[2] Generate babel config " ++ compilerFile)
          ++ .all (s.compilerConfig.toList.map m.written) ++ .line ""
          ++ m.heading "[3] Adjust app, page and component config"
          ++ m.app s.target outcome

/-- How a run over a project ended. -/
def outcome (m : Manner) : Outcome → Output
  | .missingPackage expected =>
    m.fatal (m.context.display expected ++ " not found, please check the app root")
  | .finished s => m.summary s

end Manner

end PageConfig.Report
