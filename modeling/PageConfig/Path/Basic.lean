/-!
# Paths

A path is its text.  What the text means is read off its components: repeated
slashes, interior dots and a trailing slash say nothing, `..` is kept, and a dot
that opens a relative path is a component of its own.  Two layers are kept
apart here.  `Path.components` is the meaning, on which comparison and
normalisation work; `Path.Layout` is the spelling, from which parents and
remainders are cut without respelling the rest.
-/

namespace PageConfig

/-- A slash-separated path, as it is written. -/
structure Path where
  text : String
deriving DecidableEq, Inhabited

namespace Path

/-- One step of a path. -/
inductive Component where
  /-- The slash that opens an absolute path. -/
  | root
  /-- The dot that opens a relative path. -/
  | here
  | up
  | name (s : String)
deriving DecidableEq, Inhabited

/-- A component as it is written. -/
def Component.text : Component → String
  | root => "/"
  | here => "."
  | up => ".."
  | name s => s

/-! ### Spelling

Text is cut at every slash; a segment that is empty or a single dot is blank
and stands for no component.
-/

/-- The segments between slashes; there is always at least one. -/
def cut : List Char → List (List Char)
  | [] => [[]]
  | c :: cs =>
    if c = '/' then [] :: cut cs
    else match cut cs with
      | [] => [[c]]
      | w :: ws => (c :: w) :: ws

/-- Segments put back together with slashes. -/
def glue : List (List Char) → List Char
  | [] => []
  | [w] => w
  | w :: ws => w ++ '/' :: glue ws

/-- The component a segment stands for, if it stands for one. -/
def segment? : List Char → Option Component
  | [] => none
  | ['.'] => none
  | ['.', '.'] => some .up
  | s => some (.name (String.ofList s))

/-- A segment that stands for no component. -/
def blank (s : List Char) : Bool := (segment? s).isNone

/-- The spelling of a path: whether a slash opens it, and the segments of the rest. -/
structure Layout where
  absolute : Bool
  segments : List (List Char)
deriving DecidableEq, Inhabited

/-- The spelling of a path. -/
def layout (p : Path) : Layout :=
  match p.text.toList with
  | [] => ⟨false, []⟩
  | c :: cs => if c = '/' then ⟨true, cut cs⟩ else ⟨false, cut (c :: cs)⟩

namespace Layout

/-- The path with this spelling. -/
def toPath (l : Layout) : Path :=
  ⟨String.ofList (if l.absolute then '/' :: glue l.segments else glue l.segments)⟩

/-- The component of the opening slash or the opening dot, and the segments after it. -/
def opening (l : Layout) : Option Component × List (List Char) :=
  if l.absolute then (some .root, l.segments)
  else match l.segments with
    | ['.'] :: rest => (some .here, rest)
    | segments => (none, segments)

/-- The components a spelling stands for. -/
def components (l : Layout) : List Component :=
  match l.opening with
  | (some c, rest) => c :: rest.filterMap segment?
  | (none, rest) => rest.filterMap segment?

/-- Drops blank segments at the end; the opening dot of a relative path stays. -/
def trimEnd (l : Layout) : Layout :=
  if l.absolute then
    { l with segments := (l.segments.reverse.dropWhile blank).reverse }
  else match l.segments with
    | ['.'] :: rest => { l with segments := ['.'] :: (rest.reverse.dropWhile blank).reverse }
    | segments => { l with segments := (segments.reverse.dropWhile blank).reverse }

end Layout

/-! ### Meaning -/

/-- The components of a path, in order. -/
def components (p : Path) : List Component := p.layout.components

/-- Two paths are the same when their components are. -/
def same (p q : Path) : Bool := p.components == q.components

/-- A path that starts at the root. -/
def isAbsolute (p : Path) : Bool := p.components.head? == some .root

/-- The path `q` as seen from `p`: an absolute `q` stands for itself. -/
def join (p q : Path) : Path :=
  match q.text.toList with
  | '/' :: _ => q
  | _ =>
    if p.text.isEmpty || p.text.toList.getLast? == some '/' then ⟨p.text ++ q.text⟩
    else ⟨p.text ++ "/" ++ q.text⟩

/-- The plainest spelling of a list of components. -/
def ofComponents (cs : List Component) : Path :=
  cs.foldl (fun p c => p.join ⟨c.text⟩) ⟨""⟩

/-- The directory that holds the path: the spelling without its last component.
The root and the empty path have none. -/
def parent? (p : Path) : Option Path :=
  let l := p.layout.trimEnd
  match l.components.getLast? with
  | none | some .root => none
  | some _ => some { l with segments := l.segments.dropLast }.trimEnd.toPath

/-- The directory that holds the path, or the empty path. -/
def parent (p : Path) : Path := p.parent?.getD ⟨""⟩

/-- A path and those above it, at most so many. -/
def climb : Nat → Path → List Path
  | 0, p => [p]
  | n + 1, p =>
    match p.parent? with
    | some q => p :: climb n q
    | none => [p]

/-- A path and those above it.  Every step up leaves out part of the text. -/
def ancestors (p : Path) : List Path := climb p.text.length p

/-- The last component, when it is a name. -/
def fileName? (p : Path) : Option String :=
  match p.components.getLast? with
  | some (.name s) => some s
  | _ => none

/-- The path with its file name replaced, or with one added if it has none. -/
def withFileName (p : Path) (name : String) : Path :=
  (if p.fileName?.isSome then p.parent else p).join ⟨name⟩

/-- What is left of a spelling after the given components, looking past blank segments. -/
def after : List Component → List (List Char) → Option (List (List Char))
  | [], segments => some segments
  | _ :: _, [] => none
  | c :: cs, s :: segments =>
    match segment? s with
    | none => after (c :: cs) segments
    | some d => if c = d then after cs segments else none
termination_by _ segments => segments.length

/-- The rest of the path below `base`, in its own spelling but without blank ends.
Whole components count, not characters. -/
def below? (p base : Path) : Option Path :=
  match base.components with
  | [] => some p.layout.trimEnd.toPath
  | d :: ds =>
    let rest := match p.layout.opening with
      | (some c, segments) => if c = d then after ds segments else none
      | (none, segments) => after (d :: ds) segments
    rest.map fun segments =>
      ⟨String.ofList (glue (((segments.dropWhile blank).reverse.dropWhile blank).reverse))⟩

/-- The path as it is shown to the user: below `root` when it lies there, with slashes only. -/
def display (root p : Path) : String :=
  ((p.below? root).getD p).text.map fun c => if c = '\\' then '/' else c

end Path

end PageConfig
