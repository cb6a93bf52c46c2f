import PageConfig.Path.Basic

/-!
# Disks

A disk as a value: what stands at each place, a place being the list of names
that lead to it from the root.  The root is always a directory.
-/

namespace PageConfig

/-- What a file holds: text, or bytes that are none. -/
inductive Content where
  | text (s : String)
  | bytes (bs : List UInt8)
deriving DecidableEq, Inhabited

/-- Bytes as text, if they are text. -/
def Content.ofBytes (bs : List UInt8) : Content :=
  match String.fromUTF8? ⟨bs.toArray⟩ with
  | some s => .text s
  | none => .bytes bs

/-- What stands at a place. -/
inductive Entry where
  | file (content : Content)
  | directory
deriving DecidableEq, Inhabited

/-- The names that lead to a place from the root. -/
abbrev Place := List String

/-- A place as an absolute path. -/
def Place.path (at' : Place) : Path := ⟨"/" ++ "/".intercalate at'⟩

/-- The place of a path from the root, whatever stands on the way. -/
def Place.ofPath (p : Path) : Place :=
  p.components.filterMap fun c => match c with
    | .name s => some s
    | _ => none

/-- A disk: its entries, and the directory that relative paths start from. -/
structure Disk where
  entries : List (Place × Entry)
  home : Place
deriving DecidableEq, Inhabited

namespace Disk

/-- A disk with nothing on it. -/
def blank : Disk := ⟨[], []⟩

/-- What stands at a place. -/
def at? (d : Disk) (place : Place) : Option Entry :=
  if place.isEmpty then some .directory else d.entries.lookup place

/-- Whether there is a directory at a place. -/
def isDirectory (d : Disk) (place : Place) : Bool := d.at? place == some .directory

/-- The entries with one place changed. -/
def setEntry : List (Place × Entry) → Place → Entry → List (Place × Entry)
  | [], place, e => [(place, e)]
  | (q, f) :: rest, place, e =>
    if q = place then (q, e) :: rest else (q, f) :: setEntry rest place e

/-- The disk with something else at a place. -/
def set (d : Disk) (place : Place) (e : Entry) : Disk :=
  { d with entries := setEntry d.entries place e }

/-- The disk with a directory at a place, unless something is there. -/
def makeDirectory (d : Disk) (place : Place) : Disk :=
  match d.at? place with
  | some _ => d
  | none => d.set place .directory

/-- The places above a place, the root first. -/
def above (place : Place) : List Place := (List.range place.length).map place.take

/-- The disk with something else at a place, and directories on the way to it. -/
def install (d : Disk) (place : Place) (e : Entry) : Disk :=
  ((above place).foldl makeDirectory d).set place e

/-- The disk without a place and all that is below it. -/
def remove (d : Disk) (place : Place) : Disk :=
  { d with entries := d.entries.filter fun (q, _) => !place.isPrefixOf q }

/-- The files of a disk and what they hold. -/
def files (d : Disk) : List (Place × Content) :=
  d.entries.filterMap fun (place, e) => match e with
    | .file content => some (place, content)
    | .directory => none

end Disk

end PageConfig
