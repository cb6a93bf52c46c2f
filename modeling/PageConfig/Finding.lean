/-!
# Findings

What a run notices and goes on from.  A finding belongs to a file, has a rule,
a severity, a message and perhaps details; those a user has to act on are
prominent and always shown.
-/

namespace PageConfig

/-- How bad a finding is. -/
inductive Severity where
  | error
  | warning
deriving DecidableEq, Inhabited

/-- The severity in words. -/
def Severity.words : Severity → String
  | error => "error"
  | warning => "warning"

/-- Something noticed during a run. -/
inductive Finding where
  /-- A file that could not be read or parsed. -/
  | parseError (file error : String)
  /-- A page list of the entry that is missing or malformed. -/
  | invalidEntry (file reason : String)
  /-- A page of the entry without a file. -/
  | missingPage (page tried : String)
  /-- A component without a file. -/
  | missingComponent (file name specifier : String)
  /-- Components that use each other in a circle. -/
  | cycle (page : String) (chain : List String)
  /-- A config value that is no literal. -/
  | nonLiteral (file path kind : String)
deriving DecidableEq, Inhabited

namespace Finding

/-- The name of the rule a finding comes from. -/
def rule : Finding → String
  | parseError _ _ => "parse-error"
  | invalidEntry _ _ => "invalid-entry-config"
  | missingPage _ _ => "missing-page"
  | missingComponent _ _ _ => "missing-component"
  | cycle _ _ => "component-cycle"
  | nonLiteral _ _ _ => "non-literal-config"

/-- How bad a finding is. -/
def severity : Finding → Severity
  | parseError _ _ => .error
  | _ => .warning

/-- Whether a finding is shown to a user who did not ask for all. -/
def isProminent : Finding → Bool
  | parseError _ _ => true
  | invalidEntry _ _ => true
  | _ => false

/-- The file a finding belongs to. -/
def file : Finding → String
  | parseError file _ => file
  | invalidEntry file _ => file
  | missingPage _ tried => tried
  | missingComponent file _ _ => file
  | cycle page _ => page
  | nonLiteral file _ _ => file

/-- What a finding says. -/
def message : Finding → String
  | parseError _ _ => "file could not be parsed"
  | invalidEntry _ reason => reason
  | missingPage page _ => "page \"" ++ page ++ "\" not found, skipped"
  | missingComponent _ name specifier =>
    "component \"" ++ name ++ "\" (" ++ specifier ++ ") not found, skipped"
  | cycle _ _ => "component usage cycle, resolution truncated"
  | nonLiteral _ path _ => "config value at \"" ++ path ++ "\" is not a literal, omitted"

/-- More about a finding. -/
def details? : Finding → Option String
  | parseError _ error => some error
  | cycle _ chain => some (" -> ".intercalate chain)
  | nonLiteral _ _ kind => some ("found " ++ kind)
  | _ => none

end Finding

end PageConfig
