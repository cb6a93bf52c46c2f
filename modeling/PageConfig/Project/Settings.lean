import PageConfig.Glob
import PageConfig.Json.Printer

/-!
# Settings

What a project can set for its migration, how the settings are written, and
when they make sense.
-/

namespace PageConfig.Project

open PageConfig.Json (Value)

/-- Whether a character has the Unicode property White_Space. -/
def isSpace (c : Char) : Bool :=
  (9 ≤ c.toNat && c.toNat ≤ 13) || c.toNat = 0x20 || c.toNat = 0x85 || c.toNat = 0xA0
    || c.toNat = 0x1680 || (0x2000 ≤ c.toNat && c.toNat ≤ 0x200A) || c.toNat = 0x2028
    || c.toNat = 0x2029 || c.toNat = 0x202F || c.toNat = 0x205F || c.toNat = 0x3000

/-- Whether a text is nothing but white space. -/
def isBlankText (s : String) : Bool := s.toList.all isSpace

/-- What a project can set. -/
structure Settings where
  /-- The directory of the sources, below the project. -/
  sourceRoot : String
  /-- The entry of the app, below the sources, without extension. -/
  entry : String
  /-- The build config, below the project, without extension. -/
  projectConfig : String
  /-- Patterns for pages to leave alone, below the sources. -/
  ignores : List String
  /-- The platform whose files are preferred. -/
  platform : Option String
  /-- The framework for the compiler config. -/
  framework : String
deriving DecidableEq, Inhabited

namespace Settings

/-- The settings of a project that sets nothing. -/
def default : Settings where
  sourceRoot := "src"
  entry := "app"
  projectConfig := "config/index"
  ignores := []
  platform := none
  framework := "nerv"

/-- The settings as a JSON value; a platform that is not set is left out. -/
def value (s : Settings) : Value :=
  .object ([("sourceRoot", .string s.sourceRoot), ("entry", .string s.entry),
      ("projectConfig", .string s.projectConfig), ("ignores", .array (s.ignores.map .string))]
    ++ (s.platform.toList.map fun p => ("platform", .string p))
    ++ [("framework", .string s.framework)])

/-- The settings as the text of a file. -/
def text (s : Settings) : String := s.value.pretty

/-! ### Checks -/

/-- What can be wrong with settings. -/
inductive Problem where
  | badPattern (pattern : String) (fault : Glob.Fault)
  | emptyEntry
deriving DecidableEq, Inhabited

/-- The problem in words. -/
def Problem.message : Problem → String
  | badPattern pattern fault =>
    "Invalid glob pattern in 'ignores': \"" ++ pattern ++ "\": " ++ fault.message
  | emptyEntry => "'entry' must not be empty"

/-- The pattern of a text. -/
def pattern (text : String) : Except Problem Glob :=
  (Glob.parse text).mapError (Problem.badPattern text)

/-- The patterns for pages to leave alone. -/
def patterns (s : Settings) : Except Problem (List Glob) := s.ignores.mapM pattern

/-- Checks the patterns, then the entry. -/
def check (s : Settings) : Except Problem Unit := do
  let _ ← s.patterns
  if isBlankText s.entry then .error .emptyEntry else pure ()

end Settings

end PageConfig.Project
