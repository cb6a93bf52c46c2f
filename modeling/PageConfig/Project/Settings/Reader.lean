import PageConfig.Json.Reader
import PageConfig.Project.Settings

/-!
# Reading settings

Settings are read from a JSON object; fields that are missing have defaults,
unknown fields are passed over, and only the platform may be null.  A JSON
list is read as the fields in order.
-/

namespace PageConfig.Project

open PageConfig.Json (Value Reader)

/-- A field of the settings. -/
inductive Field where
  | sourceRoot
  | entry
  | projectConfig
  | ignores
  | platform
  | framework
deriving DecidableEq, Inhabited

namespace Field

/-- The fields in order. -/
def all : List Field := [sourceRoot, entry, projectConfig, ignores, platform, framework]

/-- The key of a field. -/
def key : Field → String
  | sourceRoot => "sourceRoot"
  | entry => "entry"
  | projectConfig => "projectConfig"
  | ignores => "ignores"
  | platform => "platform"
  | framework => "framework"

/-- The field of a key. -/
def ofKey? (k : String) : Option Field := all.find? fun f => f.key = k

end Field

namespace Settings

open PageConfig.Json.Reader

/-- Fails at a value of another type than the one wanted.  A value without parts has been read
when this is noticed. -/
def refuse {α : Type} (wanted : String) : Reader α := do
  match ← peekToken with
  | none => failHere .endInValue
  | some 'n' => do
    skip
    word "ull".toList
    failHere (.wrongType .null wanted)
  | some 't' => do
    skip
    word "rue".toList
    failHere (.wrongType (.bool true) wanted)
  | some 'f' => do
    skip
    word "alse".toList
    failHere (.wrongType (.bool false) wanted)
  | some '-' => do
    skip
    refuseNumber (← number true)
  | some '"' => do
    skip
    failHere (.wrongType (.string (← stringBody)) wanted)
  | some '[' => failHere (.wrongType .sequence wanted)
  | some '\x7b' => failHere (.wrongType .map wanted)
  | some c =>
    if c.isDigit then do refuseNumber (← number false)
    else failAtNext .expectedValue
where
  refuseNumber : Value → Reader α
    | .double x => failHere (.wrongType (.double x) wanted)
    | .int n => failHere (.wrongType (.int n) wanted)
    | _ => failHere .badNumber

/-- A string. -/
def readString : Reader String := do
  match ← peekToken with
  | some '"' => do
    skip
    stringBody
  | _ => refuse "a string"

/-- A list of strings. -/
def readStrings : Reader (List String) := do
  match ← peekToken with
  | some '[' => do
    skip
    let xs ← items readString ((← remaining) + 1) true
    endList
    pure xs
  | _ => refuse "a sequence"

/-- A string or null. -/
def readOptional : Reader (Option String) := do
  match ← peekToken with
  | some 'n' => do
    skip
    word "ull".toList
    pure none
  | _ => return some (← readString)

/-- The settings with the value of a field read into them. -/
def readField (s : Settings) : Field → Reader Settings
  | .sourceRoot => return { s with sourceRoot := ← readString }
  | .entry => return { s with entry := ← readString }
  | .projectConfig => return { s with projectConfig := ← readString }
  | .ignores => return { s with ignores := ← readStrings }
  | .platform => return { s with platform := ← readOptional }
  | .framework => return { s with framework := ← readString }

/-- Fails at a key that was there before.  The end of the object, if it is next, counts as read. -/
def refuseTwice {α : Type} (f : Field) : Reader α := do
  match ← peekToken with
  | some '\x7d' => skip
  | _ => pure ()
  failHere (.duplicateField f.key)

/-- The fields of an object, given those read before. -/
def readFields : Nat → Bool → List Field → Settings → Reader Settings
  | 0, _, _, s => pure s
  | fuel + 1, first, seen, s => do
    if ← moreFields first then
      skip
      match Field.ofKey? (← stringBody) with
      | some f =>
        if seen.contains f then refuseTwice f
        else do
          colon
          readFields fuel false (f :: seen) (← s.readField f)
      | none => do
        colon
        skipValue (2 * (← remaining) + 2)
        readFields fuel false seen s
    else pure s

/-- The fields of a list, in order, as far as it goes. -/
def readItems : List Field → Bool → Settings → Reader Settings
  | [], _, s => pure s
  | f :: fs, first, s => do
    if ← moreItems first then
      readItems fs false (← s.readField f)
    else pure s

/-- Settings, as an object or as a list. -/
def reader : Reader Settings := do
  match ← peekToken with
  | some '[' => do
    skip
    let s ← readItems Field.all true default
    endList
    pure s
  | some '\x7b' => do
    skip
    let s ← readFields ((← remaining) + 1) true [] default
    endObject
    pure s
  | _ => refuse "struct Config"

/-- Settings from the text of a file. -/
def read (text : String) : Except Json.Fault Settings :=
  (do
    let s ← reader
    finish
    pure s : Reader Settings).run' text.toList

end Settings

end PageConfig.Project
