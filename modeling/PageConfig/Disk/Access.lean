import PageConfig.Disk.Basic
import PageConfig.Job.Basic

/-!
# Access by path

How a disk answers questions about paths.  A path is walked segment by segment
as it is spelled: every segment but the last has to lead to a directory, also
one that is empty or a dot, and `..` leads to the place above.  Names and paths
are limited in length.
-/

namespace PageConfig.Disk

/-- The most bytes a name may have. -/
def nameLimit : Nat := 255

/-- The most bytes a path may have. -/
def pathLimit : Nat := 4095

/-- The segments of a path and the place they start from. -/
def start? (d : Disk) (p : Path) : Except Refusal (Place × List (List Char)) :=
  if p.text.utf8ByteSize > pathLimit then .error .nameTooLong
  else match p.text.toList with
    | [] => .error .missing
    | '/' :: cs => .ok ([], Path.cut cs)
    | cs => .ok (d.home, Path.cut cs)

/-- The place that segments lead to. -/
def walk (d : Disk) : Place → List (List Char) → Except Refusal Place
  | place, [] => .ok place
  | place, s :: rest =>
    if d.isDirectory place then
      match Path.segment? s with
      | some .up => walk d place.dropLast rest
      | some (.name n) =>
        if n.utf8ByteSize > nameLimit then .error .nameTooLong
        else match d.at? (place ++ [n]) with
          | some _ => walk d (place ++ [n]) rest
          | none => .error .missing
      | _ => walk d place rest
    else .error .notDirectory

/-- The place of a path. -/
def find (d : Disk) (p : Path) : Except Refusal Place := do
  let (place, segments) ← d.start? p
  d.walk place segments

/-- What stands at a path. -/
def entry? (d : Disk) (p : Path) : Option Entry :=
  match d.find p with
  | .ok place => d.at? place
  | .error _ => none

/-- Whether there is anything at a path. -/
def present (d : Disk) (p : Path) : Bool := (d.entry? p).isSome

/-- Whether there is a file at a path. -/
def isFile (d : Disk) (p : Path) : Bool :=
  match d.entry? p with
  | some (.file _) => true
  | _ => false

/-- The text of a file. -/
def read (d : Disk) (p : Path) : Except Refusal String := do
  match d.at? (← d.find p) with
  | some (.file (.text s)) => .ok s
  | some (.file (.bytes _)) => .error .notText
  | some .directory => .error .isDirectory
  | none => .error .missing

/-- The path of a place from the root. -/
def canonical (d : Disk) (p : Path) : Except Refusal Path := do
  return (← d.find p).path

/-- The place a new file at a path takes: its directory has to be there, and no directory may be
in its place. -/
def target (d : Disk) (p : Path) : Except Refusal Place := do
  let (place, segments) ← d.start? p
  let named := (segments.reverse.dropWhile List.isEmpty).reverse
  match named.getLast? with
  | none => .error .isDirectory
  | some last =>
    let parent ← d.walk place named.dropLast
    if !d.isDirectory parent then .error .notDirectory
    else match Path.segment? last with
      | some (.name n) =>
        if n.utf8ByteSize > nameLimit then .error .nameTooLong
        else if named.length < segments.length || d.isDirectory (parent ++ [n]) then .error .isDirectory
        else .ok (parent ++ [n])
      | _ => .error .isDirectory

/-- The disk after a file has been written. -/
def write (d : Disk) (p : Path) (text : String) : Except Refusal Disk := do
  return d.set (← d.target p) (.file (.text text))

/-- Runs a job on a disk: its result, and the disk after it. -/
def run {α : Type} (d : Disk) : Job α → α × Disk
  | .done a => (a, d)
  | .present p next => d.run (next (d.present p))
  | .isFile p next => d.run (next (d.isFile p))
  | .read p next => d.run (next (d.read p))
  | .write p text next =>
    match d.write p text with
    | .ok d' => d'.run (next (.ok ()))
    | .error e => d.run (next (.error e))
  | .canonical p next => d.run (next (d.canonical p))

end PageConfig.Disk
