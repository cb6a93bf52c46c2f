import PageConfig.Finding
import PageConfig.Json.Value
import PageConfig.Path.Reference

/-!
# Page lists

The pages of an app: those its entry lists, and those of its subpackages below
their roots.  A page of a subpackage that is listed already is not listed
again.  What is malformed is left out and found.
-/

namespace PageConfig.Project

open PageConfig.Json (Value)

/-- The pages so far, and what was found wrong. -/
structure PageList where
  pages : List String
  findings : List Finding
deriving Inhabited

namespace PageList

/-- The list with something found wrong in a file. -/
def invalid (l : PageList) (file reason : String) : PageList :=
  { l with findings := l.findings ++ [.invalidEntry file reason] }

/-- The list with one more page. -/
def push (l : PageList) (page : String) : PageList := { l with pages := l.pages ++ [page] }

/-- The list with a page that may be there already. -/
def pushNew (l : PageList) (page : String) : PageList :=
  if l.pages.contains page then l else l.push page

/-- Adds the items of a page list from an index on. -/
def addPages (file : String) : Nat → List Value → PageList → PageList
  | _, [], l => l
  | i, v :: vs, l =>
    addPages file (i + 1) vs (match v.string? with
      | some page => l.push page
      | none => l.invalid file ("pages[" ++ toString i ++ "] is not a string, skipped"))

/-- Adds the page list of an entry. -/
def addMain (file : String) (pages : Option Value) (l : PageList) : PageList :=
  match pages.bind Value.items? with
  | some items => addPages file 0 items l
  | none => l.invalid file "entry config has no \"pages\" list"

/-- A page below the root of a subpackage. -/
def subpage (root page : String) : String := Path.collapseSlashes (root ++ "/" ++ page)

/-- Adds the pages of a subpackage from an index on. -/
def addSubpages (file : String) (package : Nat) (root : String) :
    Nat → List Value → PageList → PageList
  | _, [], l => l
  | i, v :: vs, l =>
    addSubpages file package root (i + 1) vs (match v.string? with
      | some page => l.pushNew (subpage root page)
      | none => l.invalid file ("subPackages[" ++ toString package ++ "].pages[" ++ toString i ++
          "] is not a string, skipped"))

/-- Adds a subpackage. -/
def addPackage (file : String) (i : Nat) (v : Value) (l : PageList) : PageList :=
  match (v.get? "root").bind Value.string? with
  | none => l.invalid file ("subPackages[" ++ toString i ++ "] has no \"root\", skipped")
  | some root =>
    match (v.get? "pages").bind Value.items? with
    | none => l
    | some items => addSubpages file i root 0 items l

/-- Adds the subpackages from an index on. -/
def addPackages (file : String) : Nat → List Value → PageList → PageList
  | _, [], l => l
  | i, v :: vs, l => addPackages file (i + 1) vs (addPackage file i v l)

end PageList

/-- The subpackages of a config, under either spelling of their key. -/
def subpackages (config : Value) : List Value :=
  (((config.get? "subPackages").or (config.get? "subpackages")).bind Value.items?).getD []

/-- The pages of the config of an entry. -/
def collectPages (config : Value) (file : String) : PageList :=
  PageList.addPackages file 0 (subpackages config)
    (PageList.addMain file (config.get? "pages") ⟨[], []⟩)

end PageConfig.Project
