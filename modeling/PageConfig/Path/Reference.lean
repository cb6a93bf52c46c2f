import PageConfig.Path.Normal

/-!
# Names and module references

How a file name splits into stem and extension, how a file is named in the
source of another one, and where its config artifact goes.
-/

namespace PageConfig.Path

/-! ### File names -/

/-- A file name cut at its last dot, unless the dot opens the name. -/
def splitName (name : List Char) : List Char × Option (List Char) :=
  let ext := (name.reverse.takeWhile (· ≠ '.')).reverse
  let stem := name.take (name.length - ext.length - 1)
  if stem.isEmpty then (name, none) else (stem, some ext)

/-- The file name without its extension. -/
def fileStem? (p : Path) : Option String :=
  p.fileName?.map fun s => String.ofList (splitName s.toList).1

/-- What follows the last dot of the file name. -/
def extension? (p : Path) : Option String :=
  p.fileName?.bind fun s => (splitName s.toList).2.map String.ofList

/-- A file name with its extension and the dot before it cut off.  Cutting the extension
may leave two dots, which are no file name and stay. -/
def bareName (name : List Char) : List Char :=
  match splitName name with
  | (_, none) => name
  | (stem, some _) => if stem = ['.'] then ['.', '.'] else stem

/-- The components with the extension of the last name cut off. -/
def bare (cs : List Component) : List Component :=
  match cs.getLast? with
  | some (.name s) =>
    cs.dropLast ++ [(segment? (bareName s.toList)).getD (.name s)]
  | _ => cs

/-! ### Specifiers -/

/-- A specifier that points into the project rather than to a package. -/
def isRelativeSpecifier (s : String) : Bool :=
  s == "." || s == ".." || s.startsWith "./" || s.startsWith "../"

/-- Puts `./` in front of a path that does not say where it starts. -/
def promote (s : String) : String :=
  if s.startsWith "../" || s.startsWith "./" || s == ".." then s else "./" ++ s

/-- The specifier by which a module in the directory `start` names the file `goal`. -/
def moduleReference (start goal : Path) : String :=
  promote ("/".intercalate ((bare (relative start goal).components).map Component.text))

/-! ### Slashes and artifacts -/

/-- Every run of slashes as a single one. -/
def collapse : List Char → List Char
  | [] => []
  | [c] => [c]
  | c :: d :: cs => if c = '/' && d = '/' then collapse (d :: cs) else c :: collapse (d :: cs)

/-- Text with every run of slashes as a single one. -/
def collapseSlashes (s : String) : String := String.ofList (collapse s.toList)

/-- The file beside `source` that takes its config; a typed source gets a typed one. -/
def artifact (source : Path) : Path :=
  let ext := match source.extension? with
    | some "ts" | some "tsx" => "ts"
    | _ => "js"
  source.withFileName (source.fileStem?.getD "" ++ ".config." ++ ext)

end PageConfig.Path
