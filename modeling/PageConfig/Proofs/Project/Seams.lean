import Mathlib.Data.List.Forall2
import PageConfig.Project.Pages
import PageConfig.Proofs.Path.Slashes

/-!
# Slashes between a root and its pages

A page of a subpackage is listed under one text, made of the root of the
subpackage and the page with a slash between them.  Whether the root ends with
slashes, or the page starts with some, does not change that text, because all of
them fall into the run of the slash between.  `SameButSeams` relates configs
that differ in such slashes only, and the page lists of two such configs are
equal, with what is found in them: as each step of reading a config does the same
for both, so does reading it whole.
-/

namespace PageConfig.Project

open PageConfig.Json (Value)

/-! ### Configs that differ at seams -/

/-- Roots that differ in slashes at their end only. -/
def SameRoot (a b : String) : Prop :=
  a.toList.rdropWhile (· = '/') = b.toList.rdropWhile (· = '/')

/-- Pages that differ in slashes at their start only. -/
def SamePage (a b : String) : Prop :=
  a.toList.dropWhile (· = '/') = b.toList.dropWhile (· = '/')

instance : DecidableRel SameRoot := fun _ _ => inferInstanceAs (Decidable (_ = _))

instance : DecidableRel SamePage := fun _ _ => inferInstanceAs (Decidable (_ = _))

/-- Items of a page list that are the same page, or no page at all. -/
def SameItem (v w : Value) : Prop := Option.Rel SamePage v.string? w.string?

/-- Subpackages that differ in slashes between root and pages only. -/
structure SamePackage (p q : Value) : Prop where
  root : Option.Rel SameRoot ((p.get? "root").bind Value.string?)
    ((q.get? "root").bind Value.string?)
  pages : Option.Rel (List.Forall₂ SameItem) ((p.get? "pages").bind Value.items?)
    ((q.get? "pages").bind Value.items?)

/-- Configs that differ in slashes between the roots and the pages of subpackages only. -/
structure SameButSeams (config config' : Value) : Prop where
  pages : config.get? "pages" = config'.get? "pages"
  packages : List.Forall₂ SamePackage (subpackages config) (subpackages config')

namespace PageList

variable {file : String} {root root' : String}

/-- Slashes between root and page do not show in the text of a page. -/
lemma subpage_congr {page page' : String} (hroot : SameRoot root root')
    (hpage : SamePage page page') : subpage root page = subpage root' page' := by
  have htext : ∀ r p : String, subpage r p = String.ofList (Path.collapse
      (r.toList.rdropWhile (· = '/') ++ '/' :: p.toList.dropWhile (· = '/'))) := by
    intro r p
    rw [Path.collapse_append_slash_dropWhile, Path.collapse_rdropWhile_append_slash, subpage,
      Path.collapseSlashes]
    simp
  rw [htext, htext, hroot, hpage]

/-- Items that are the same are added under the same texts. -/
lemma addSubpages_congr (hroot : SameRoot root root') {vs ws : List Value}
    (h : List.Forall₂ SameItem vs ws) (i j : Nat) (l : PageList) :
    addSubpages file i root j vs l = addSubpages file i root' j ws l := by
  induction h generalizing j l with
  | nil => rfl
  | @cons v w vs ws hitem _ ih =>
    rw [addSubpages, addSubpages, ih]
    unfold SameItem at hitem
    generalize v.string? = page, w.string? = page' at hitem ⊢
    cases hitem with
    | none => rfl
    | some hpage => simp only [subpage_congr hroot hpage]

/-- Subpackages that are the same add the same. -/
lemma addPackage_congr {p q : Value} (h : SamePackage p q) (i : Nat) (l : PageList) :
    addPackage file i p l = addPackage file i q l := by
  obtain ⟨hroot, hpages⟩ := h
  unfold addPackage
  generalize (p.get? "root").bind Value.string? = root,
    (q.get? "root").bind Value.string? = root' at hroot ⊢
  generalize (p.get? "pages").bind Value.items? = items,
    (q.get? "pages").bind Value.items? = items' at hpages ⊢
  cases hroot with
  | none => rfl
  | some hroot =>
    cases hpages with
    | none => rfl
    | some hitems => exact addSubpages_congr hroot hitems i 0 l

lemma addPackages_congr {ps qs : List Value} (h : List.Forall₂ SamePackage ps qs) (i : Nat)
    (l : PageList) : addPackages file i ps l = addPackages file i qs l := by
  induction h generalizing i l with
  | nil => rfl
  | cons hpackage _ ih => rw [addPackages, addPackages, addPackage_congr hpackage, ih]

end PageList

/-- Configs that differ at seams only have the same page list. -/
lemma SameButSeams.collectPages_congr {config config' : Value} (h : SameButSeams config config')
    (file : String) : collectPages config file = collectPages config' file := by
  rw [collectPages, collectPages, h.pages, PageList.addPackages_congr h.packages]

/-! ### Slashes have a canonical form -/

/-- **The canonical form of slashes.**  Collapsing the slashes of a text gives the only text that
has no two slashes in a row, the same filled segments in the same order, and a slash at the start
and at the end just if the text has one there.  So it is idempotent, and texts that are put together
may be collapsed first.  It also makes the page list of a config independent of slashes between the
roots of subpackages and their pages. -/
theorem collapseSlashes_canonical :
    (∀ s t : String, t = Path.collapseSlashes s ↔ Path.Collapsed s t) ∧
    (∀ s : String,
      Path.collapseSlashes (Path.collapseSlashes s) = Path.collapseSlashes s) ∧
    (∀ a b : String, Path.collapseSlashes (a ++ b)
      = Path.collapseSlashes (Path.collapseSlashes a ++ Path.collapseSlashes b)) ∧
    (∀ (config config' : Value) (file : String), SameButSeams config config' →
      collectPages config file = collectPages config' file) := by
  refine ⟨fun s t => Path.collapseSlashes_eq_iff, fun s => ?_, Path.collapseSlashes_append,
    fun config config' file h => h.collectPages_congr file⟩
  simp only [Path.collapseSlashes, String.toList_ofList, Path.collapse_collapse]

/-- A config with a page and a subpackage. -/
def packaged (root : String) (items : List Value) : Value :=
  .object [("pages", .array [.string "pages/index"]),
    ("subPackages", .array [.object [("root", .string root), ("pages", .array items)]])]

/-- One spelling has slashes at the end of the root, the other one at the start of a page. -/
theorem collapseSlashes_canonical_spellings :
    SameButSeams (packaged "pkg//" [.string "/a", .null, .string "b/c"])
      (packaged "pkg" [.string "a", .null, .string "//b/c"]) ∧
    collectPages (packaged "pkg//" [.string "/a", .null, .string "b/c"]) "app.tsx"
      = collectPages (packaged "pkg" [.string "a", .null, .string "//b/c"]) "app.tsx" ∧
    (collectPages (packaged "pkg" [.string "a", .null, .string "//b/c"]) "app.tsx").pages
      = ["pages/index", "pkg/a", "pkg/b/c"] := by
  have h : SameButSeams (packaged "pkg//" [.string "/a", .null, .string "b/c"])
      (packaged "pkg" [.string "a", .null, .string "//b/c"]) := by
    refine ⟨rfl, .cons ⟨.some (by decide), .some ?_⟩ .nil⟩
    exact .cons (.some (by decide)) (.cons .none (.cons (.some (by decide)) .nil))
  exact ⟨h, collapseSlashes_canonical.2.2.2 _ _ _ h, by decide⟩

end PageConfig.Project
