import PageConfig.Extract.Scan
import PageConfig.Finding
import PageConfig.Path.Reference
import PageConfig.Resolve.Script
import PageConfig.Resolve.Using

/-!
# Components of a page

From a page, every component that is used is followed to its file, and from
there on.  What the files declare is collected for the page, with references
as the page would write them.  A file is scanned once for a page; a file that
is met again while it is still being followed closes a cycle.

Files are followed to a given depth.  As every step down goes to a file that
was not visited before, a depth above the number of files is never reached.
-/

namespace PageConfig.Resolve

open PageConfig.Extract (Scan Usage Omission)
open PageConfig.Json (Value Fields)

/-- What the components of all pages are looked up with. -/
structure Lookup where
  platform : Option String
  /-- Paths in findings are shown below this one. -/
  root : Path
deriving Inhabited

/-- A path as findings show it. -/
def Lookup.display (l : Lookup) (p : Path) : String := Path.display l.root p

/-- Where the search for one page stands. -/
structure Trail where
  /-- The files being followed, the page first. -/
  stack : List Path
  /-- The component files met so far. -/
  visited : List Path
  inUse : Using
  findings : List Finding
deriving Inhabited

namespace Trail

/-- The trail with more findings. -/
def add (t : Trail) (found : List Finding) : Trail := { t with findings := t.findings ++ found }

/-- The trail with one more file met. -/
def visit (t : Trail) (file : Path) : Trail := { t with visited := file :: t.visited }

/-- The trail with one more file being followed. -/
def push (t : Trail) (file : Path) : Trail := { t with stack := t.stack ++ [file] }

/-- The trail without the last file being followed. -/
def pop (t : Trail) : Trail := { t with stack := t.stack.dropLast }

/-- The trail with one more component in use. -/
def enter (t : Trail) (name reference : String) : Trail :=
  { t with inUse := t.inUse.insert name reference }

/-- The files from one on that is being followed, if it is. -/
def since? (t : Trail) (file : Path) : Option (List Path) :=
  (t.stack.findIdx? fun p => p.same file).map t.stack.drop

/-- Whether a file was met. -/
def hasVisited (t : Trail) (file : Path) : Bool := t.visited.any fun p => p.same file

end Trail

/-! ### Steps -/

/-- The findings for values that a file leaves out. -/
def omissions (l : Lookup) (file : Path) (omitted : List Omission) : List Finding :=
  omitted.map fun o => .nonLiteral (l.display file) o.path o.kind.words

/-- The scan of a file, if it has one, and the findings that come with it. -/
def scanned (l : Lookup) (file : Path) : Job (Option Scan × List Finding) := do
  match ← Extract.scanFile file with
  | .ok scan => pure (some scan, omissions l file scan.omitted)
  | .error e => pure (none, [.parseError (l.display file) e])

/-- The file that a relative specifier in a file stands for; if there is none, a finding. -/
def target (l : Lookup) (file : Path) (name specifier : String) :
    Job (Option Path × List Finding) := do
  match ← script l.platform (file.parent.join ⟨specifier⟩) with
  | some found => pure (some found, [])
  | none => pure (none, [.missingComponent (l.display file) name specifier])

/-- Collects what a file declares, with references from the directory of the page.  Only text
counts; packages are kept as they are written. -/
def collect (l : Lookup) (pageDir file : Path) : Fields → Trail → Job Trail
  | [], t => pure t
  | (name, value) :: rest, t =>
    match value.string? with
    | none => collect l pageDir file rest t
    | some specifier =>
      if Path.isRelativeSpecifier specifier then do
        let (found?, found) ← target l file name specifier
        let t := t.add found
        match found? with
        | some goal => collect l pageDir file rest (t.enter name (Path.moduleReference pageDir goal))
        | none => collect l pageDir file rest t
      else collect l pageDir file rest (t.enter name specifier)

/-- Follows the components that a file uses, by a given way to follow one.  Packages are no
components of the project. -/
def follow (l : Lookup) (visit : Path → Trail → Job Trail) (file : Path) :
    List Usage → Trail → Job Trail
  | [], t => pure t
  | u :: us, t =>
    if Path.isRelativeSpecifier u.specifier then do
      let (found?, found) ← target l file u.name u.specifier
      let t := t.add found
      let t ← match found? with
        | some goal => visit goal t
        | none => pure t
      follow l visit file us t
    else follow l visit file us t

/-- The finding for a file that is met while it is being followed. -/
def cycleAt (l : Lookup) (t : Trail) (chain : List Path) (file : Path) : Finding :=
  .cycle (l.display (t.stack.headD ⟨""⟩)) (chain.map l.display ++ [l.display file])

/-- Follows a component to a given depth. -/
def component (l : Lookup) (pageDir : Path) : Nat → Path → Trail → Job Trail
  | 0, _, t => pure t
  | depth + 1, file, t =>
    match t.since? file with
    | some chain => pure (t.add [cycleAt l t chain file])
    | none =>
      if t.hasVisited file then pure t
      else do
        let (scan?, found) ← scanned l file
        let t := (t.visit file).add found
        match scan? with
        | none => pure t
        | some scan =>
          let t ← collect l pageDir file (scan.declared?.getD []) t
          let t ← follow l (component l pageDir depth) file scan.usages (t.push file)
          pure t.pop

/-! ### Pages -/

/-- The config of a page with the components it uses, if the page can be scanned, and the findings
after those given. -/
def page (l : Lookup) (depth : Nat) (file : Path) (findings : List Finding) :
    Job (Option Value × List Finding) := do
  let (scan?, found) ← scanned l file
  match scan? with
  | none => pure (none, findings ++ found)
  | some scan =>
    let start : Trail := ⟨[file], [], .ofDeclared scan.declared?, findings ++ found⟩
    let t ← follow l (component l file.parent depth) file scan.usages start
    pure (some (t.inUse.into scan.config), t.findings)

/-- The configs of pages one after another, and the findings of all. -/
def pages (l : Lookup) (depth : Nat) : List Path → List Finding →
    Job (List (Option Value) × List Finding)
  | [], findings => pure ([], findings)
  | file :: files, findings => do
    let (config, findings) ← page l depth file findings
    let (configs, findings) ← pages l depth files findings
    pure (config :: configs, findings)

end PageConfig.Resolve
