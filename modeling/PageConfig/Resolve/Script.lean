import PageConfig.Path.Normal
import PageConfig.Job.Basic

/-!
# Script files

A module is named without extension and may be a directory.  The files that
can stand for it are its candidates, in order; the first one that is a file is
meant.
-/

namespace PageConfig.Resolve

/-- The extensions of script files, in order. -/
def extensions : List String := [".js", ".jsx", ".ts", ".tsx"]

/-- The endings of script files, in order: for each extension, the one of the platform goes
before the plain one. -/
def endings (platform : Option String) : List String :=
  extensions.flatMap fun ext =>
    match platform with
    | some name => ["." ++ name ++ ext, ext]
    | none => [ext]

/-- The files that can stand for a module at a normal path: the path itself, the path with an
ending, and an index file below it. -/
def candidates (platform : Option String) (logical : Path) : List Path :=
  logical :: (endings platform).map (fun ending => ⟨logical.text ++ ending⟩)
    ++ (endings platform).map (fun ending => logical.join ⟨"index" ++ ending⟩)

/-- The first of some paths that is a file. -/
def firstFile : List Path → Job (Option Path)
  | [] => pure none
  | p :: ps => do
    if ← Job.askFile p then pure (some p) else firstFile ps

/-- The file that a module path stands for. -/
def script (platform : Option String) (logical : Path) : Job (Option Path) :=
  firstFile (candidates platform logical.normalize)

end PageConfig.Resolve
