import PageConfig.Finding
import PageConfig.Report.Style

/-!
# Findings in a report

Findings are shown file by file; those of one file stay in the order in which
they were found.  A summary counts them.
-/

namespace PageConfig.Report

/-- The styles of a severity. -/
def severityStyles : Severity → List Style
  | .error => [.bold, .red]
  | .warning => [.bold, .yellow]

/-- A finding over several lines, with a blank line after it. -/
def findingText (color : Bool) (f : Finding) : String :=
  paint color (severityStyles f.severity) f.severity.words ++ ": " ++ f.message ++ "  "
    ++ paint color [.dimmed, .cyan] f.rule ++ "\n"
    ++ "  " ++ paint color [.blue] "-->" ++ " " ++ f.file ++ "\n"
    ++ (match f.details? with
      | some details =>
        "   " ++ paint color [.blue] "=" ++ " " ++ paint color [.bold] "note:" ++ " " ++ details
          ++ "\n"
      | none => "")
    ++ "\n"

/-- Findings sorted by file; those of one file keep their order. -/
def byFile (fs : List Finding) : List Finding := fs.mergeSort fun a b => a.file ≤ b.file

/-- A word for some or for one. -/
def counted (n : Nat) (one many : String) : String := if n = 1 then one else many

/-- How many findings are errors. -/
def errorCount (fs : List Finding) : Nat := fs.countP fun f => f.severity = .error

/-- The line that counts findings. -/
def summaryLine (color : Bool) (fs : List Finding) : String :=
  let errors := errorCount fs
  let warnings := fs.length - errors
  toString fs.length ++ " problems (" ++ toString errors ++ " "
    ++ paint color [.red] (counted errors "error" "errors") ++ ", " ++ toString warnings ++ " "
    ++ paint color [.yellow] (counted warnings "warning" "warnings") ++ ")\n"

/-- Findings and their summary; nothing if there are none. -/
def findingsText (color : Bool) (fs : List Finding) : String :=
  if fs.isEmpty then ""
  else String.join ((byFile fs).map (findingText color)) ++ summaryLine color fs

/-- The findings that are shown: the prominent ones, or all. -/
def visible (verbose : Bool) (fs : List Finding) : List Finding :=
  fs.filter fun f => verbose || f.isProminent

/-- A note about findings that are not shown; nothing if there are none. -/
def hiddenHint (color : Bool) (count : Nat) : String :=
  if count = 0 then ""
  else paint color [.bold, .cyan] "note:" ++ " " ++ toString count
    ++ " recovered issue(s) not shown (use " ++ paint color [.cyan] "-v" ++ " for details)\n"

end PageConfig.Report
