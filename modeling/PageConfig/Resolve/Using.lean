import PageConfig.Json.Value

/-!
# Components in use

The mapping from component names to references that a page collects.  It
starts with what the page declares; a later reference for a name replaces the
earlier one and keeps its place.
-/

namespace PageConfig.Resolve

open PageConfig.Json (Value Fields)

/-- The config key that components in use are written under. -/
def usingKey : String := "usingComponents"

/-- The components a page uses, by name. -/
structure Using where
  entries : Fields
deriving Inhabited

namespace Using

/-- What a page starts with. -/
def ofDeclared (declared : Option Fields) : Using := ⟨declared.getD []⟩

/-- One more reference. -/
def insert (u : Using) (name reference : String) : Using :=
  ⟨u.entries.insert name (.string reference)⟩

/-- Whether nothing is in use. -/
def isEmpty (u : Using) : Bool := u.entries.isEmpty

/-- The mapping as a config value. -/
def value (u : Using) : Value := .object u.entries

/-- A config with the components in use written into it, unless there are none. -/
def into (u : Using) (config : Value) : Value :=
  match config with
  | .object fields => if u.isEmpty then config else .object (Fields.insert fields usingKey u.value)
  | _ => config

end Using

end PageConfig.Resolve
