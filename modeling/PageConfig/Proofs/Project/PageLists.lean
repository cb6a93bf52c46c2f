import PageConfig.Project.Pages
import PageConfig.Proofs.FirstMet

/-!
# What the page list of an entry holds

Every part of a config that the page list depends on has a `Spot`.  What
stands there is said without regard to how a config is read: `Packages` tells
which page a spot of a subpackage adds, and `Malformed` which spots are left
out.  Spots have an order: the page list, then each subpackage, each with its
items in turn.

Reading a config is one pass over its spots.  `visits` lists them, and
`collectPages_eq` says that the page list is what the visits leave behind.  From
it follows `collectPages_exact`: the pages of the entry itself come first, as
they are, then each new page of a subpackage where it is first met, and one
finding for each malformed spot.
-/

namespace PageConfig.Project

open PageConfig.Json (Value)

/-! ### Spots -/

/-- A part of a config that the page list depends on. -/
inductive Spot where
  /-- The page list itself. -/
  | pages
  /-- An item of the page list. -/
  | page (i : Nat)
  /-- A subpackage. -/
  | package (i : Nat)
  /-- An item of the page list of a subpackage. -/
  | subpage (i j : Nat)

namespace Spot

/-- What is said of a malformed spot. -/
def reason : Spot → String
  | pages => "entry config has no \"pages\" list"
  | page i => "pages[" ++ toString i ++ "] is not a string, skipped"
  | package i => "subPackages[" ++ toString i ++ "] has no \"root\", skipped"
  | subpage i j =>
    "subPackages[" ++ toString i ++ "].pages[" ++ toString j ++ "] is not a string, skipped"

/-- The page list is the first part of a config, each subpackage is a part of its own. -/
def part : Spot → Nat
  | pages | page _ => 0
  | package i | subpage i _ => i + 1

/-- A list, or a subpackage, comes before its items. -/
def item : Spot → Nat
  | pages | package _ => 0
  | page i | subpage _ i => i + 1

/-- The order of spots in a config. -/
def Before (a b : Spot) : Prop := a.part < b.part ∨ a.part = b.part ∧ a.item < b.item

end Spot

/-! ### What stands at a spot -/

/-- The subpackage at an index.  The second key counts only where the first one is missing. -/
inductive PackageAt (config : Value) (i : Nat) (package : Value) : Prop where
  | first {items : List Value} (hlist : config.get? "subPackages" = some (.array items))
    (hitem : items[i]? = some package) : PackageAt config i package
  | second {items : List Value} (hnone : config.get? "subPackages" = none)
    (hlist : config.get? "subpackages" = some (.array items))
    (hitem : items[i]? = some package) : PackageAt config i package

/-- A value that is no string. -/
def NotString (v : Value) : Prop := ∀ s, v ≠ .string s

/-- A subpackage that has a root, with the items of its page list. -/
structure Paged (package : Value) (root : String) (items : List Value) : Prop where
  root_eq : package.get? "root" = some (.string root)
  pages_eq : package.get? "pages" = some (.array items)

/-- The page that a spot of a subpackage adds. -/
inductive Packages (config : Value) : Spot → String → Prop where
  | subpage {i j : Nat} {package : Value} {root page : String} {items : List Value}
    (hpackage : PackageAt config i package) (hpaged : Paged package root items)
    (hitem : items[j]? = some (.string page)) :
    Packages config (.subpage i j) (Path.collapseSlashes (root ++ "/" ++ page))

/-- The spots that are left out. -/
inductive Malformed (config : Value) : Spot → Prop where
  | pages (h : ∀ items, config.get? "pages" ≠ some (.array items)) : Malformed config .pages
  | page {i : Nat} {items : List Value} {v : Value}
    (hlist : config.get? "pages" = some (.array items)) (hitem : items[i]? = some v)
    (hv : NotString v) : Malformed config (.page i)
  | package {i : Nat} {package : Value} (hpackage : PackageAt config i package)
    (hroot : ∀ root, package.get? "root" ≠ some (.string root)) : Malformed config (.package i)
  | subpage {i j : Nat} {package v : Value} {root : String} {items : List Value}
    (hpackage : PackageAt config i package) (hpaged : Paged package root items)
    (hitem : items[j]? = some v) (hv : NotString v) : Malformed config (.subpage i j)

/-- The strings in the page list of the entry itself. -/
def mainPages (config : Value) : List String :=
  match config.get? "pages" with
  | some (.array items) => items.filterMap Value.string?
  | _ => []

/-! ### Reading values -/

section

variable {v : Value} {o : Option Value}

lemma string?_eq_some_iff {s : String} : v.string? = some s ↔ v = .string s := by
  cases v <;> simp [Value.string?]

lemma string?_eq_none_iff : v.string? = none ↔ NotString v := by
  simp [Option.eq_none_iff_forall_ne_some, string?_eq_some_iff, NotString]

lemma items?_eq_some_iff {items : List Value} : v.items? = some items ↔ v = .array items := by
  cases v <;> simp [Value.items?]

lemma bind_string?_eq_some_iff {s : String} :
    o.bind Value.string? = some s ↔ o = some (.string s) := by
  simp [Option.bind_eq_some_iff, string?_eq_some_iff]

lemma bind_string?_eq_none_iff :
    o.bind Value.string? = none ↔ ∀ s, o ≠ some (.string s) := by
  simp only [Option.eq_none_iff_forall_ne_some, ne_eq, bind_string?_eq_some_iff]

lemma bind_items?_eq_some_iff {items : List Value} :
    o.bind Value.items? = some items ↔ o = some (.array items) := by
  simp [Option.bind_eq_some_iff, items?_eq_some_iff]

lemma bind_items?_eq_none_iff :
    o.bind Value.items? = none ↔ ∀ items, o ≠ some (.array items) := by
  simp only [Option.eq_none_iff_forall_ne_some, ne_eq, bind_items?_eq_some_iff]

lemma getElem?_getD_eq_some_iff {l : Option (List Value)} {i : Nat} :
    (l.getD [])[i]? = some v ↔ ∃ items, l = some items ∧ items[i]? = some v := by
  cases l <;> simp

end

/-- The subpackages are read off under the key that counts. -/
lemma packageAt_iff {config package : Value} {i : Nat} :
    PackageAt config i package ↔ (subpackages config)[i]? = some package := by
  rw [subpackages, getElem?_getD_eq_some_iff]
  constructor
  · rintro (⟨hlist, hitem⟩ | ⟨hnone, hlist, hitem⟩)
    · exact ⟨_, by rw [hlist]; rfl, hitem⟩
    · exact ⟨_, by rw [hnone, hlist]; rfl, hitem⟩
  · rintro ⟨items, hitems, hitem⟩
    rw [bind_items?_eq_some_iff, Option.or_eq_some_iff] at hitems
    rcases hitems with hlist | ⟨hnone, hlist⟩
    · exact .first hlist hitem
    · exact .second hnone hlist hitem

/-! ### Visits -/

/-- A spot with the page that it adds.  A spot that adds none is malformed. -/
structure Visit where
  spot : Spot
  page? : Option String

/-- The visits to the items of a list, given where they stand and how they are named. -/
def itemVisits (spot : Nat → Spot) (name : String → String) (start : Nat) (items : List Value) :
    List Visit :=
  (items.zipIdx start).map fun x => ⟨spot x.2, x.1.string?.map name⟩

/-- The visits to the page list of the entry itself. -/
def mainVisits (config : Value) : List Visit :=
  match (config.get? "pages").bind Value.items? with
  | some items => itemVisits .page id 0 items
  | none => [⟨.pages, none⟩]

/-- The visits to a subpackage. -/
def packageVisits (i : Nat) (package : Value) : List Visit :=
  match (package.get? "root").bind Value.string? with
  | none => [⟨.package i, none⟩]
  | some root =>
    itemVisits (.subpage i) (PageList.subpage root) 0
      (((package.get? "pages").bind Value.items?).getD [])

/-- The visits to some subpackages. -/
def packagesVisits (start : Nat) (packages : List Value) : List Visit :=
  (packages.zipIdx start).flatMap fun x => packageVisits x.2 x.1

/-- The visits to a config. -/
def visits (config : Value) : List Visit :=
  mainVisits config ++ packagesVisits 0 (subpackages config)

/-- The pages that some visits add. -/
def pagesOf (vs : List Visit) : List String := vs.filterMap Visit.page?

/-- The malformed spots among some visits. -/
def malformedOf (vs : List Visit) : List Spot :=
  (vs.filter fun v => v.page?.isNone).map Visit.spot

/-- The finding about a malformed spot. -/
def Spot.finding (file : String) (spot : Spot) : Finding := .invalidEntry file spot.reason

namespace PageList

/-- The page list after a visit, given how a page is added to it. -/
def visit (add : List String → String → List String) (file : String) (l : PageList) (v : Visit) :
    PageList :=
  match v.page? with
  | some page => { l with pages := add l.pages page }
  | none => l.invalid file v.spot.reason

/-- **Visits add their pages, and a finding for each malformed spot.** -/
lemma foldl_visit (add : List String → String → List String) (file : String) (l : PageList)
    (vs : List Visit) :
    vs.foldl (visit add file) l =
      ⟨(pagesOf vs).foldl add l.pages, l.findings ++ (malformedOf vs).map (Spot.finding file)⟩ := by
  induction vs generalizing l with
  | nil => simp [pagesOf, malformedOf]
  | cons v vs ih =>
    rw [List.foldl_cons, ih]
    cases hpage : v.page? with
    | some page => simp [visit, pagesOf, malformedOf, hpage]
    | none => simp [visit, invalid, pagesOf, malformedOf, Spot.finding, hpage]

end PageList

/-! ### Reading is visiting -/

lemma itemVisits_cons (spot : Nat → Spot) (name : String → String) (start : Nat) (v : Value)
    (items : List Value) :
    itemVisits spot name start (v :: items) =
      ⟨spot start, v.string?.map name⟩ :: itemVisits spot name (start + 1) items := by
  rw [itemVisits, List.zipIdx_cons, List.map_cons, itemVisits]

/-- The visits to a list name its strings. -/
lemma pagesOf_itemVisits (spot : Nat → Spot) (name : String → String) (start : Nat)
    (items : List Value) :
    pagesOf (itemVisits spot name start items) = (items.filterMap Value.string?).map name := by
  induction items generalizing start with
  | nil => rfl
  | cons v items ih =>
    have htail := ih (start + 1)
    unfold pagesOf at htail ⊢
    rw [itemVisits_cons]
    cases hv : v.string? <;> simp [hv, htail]

lemma pagesOf_mainVisits (config : Value) : pagesOf (mainVisits config) = mainPages config := by
  unfold mainVisits mainPages
  cases hitems : (config.get? "pages").bind Value.items? with
  | some items =>
    rw [bind_items?_eq_some_iff.mp hitems]
    exact (pagesOf_itemVisits _ _ _ _).trans (List.map_id _)
  | none =>
    change [] = _
    split
    · next items hlist => exact absurd hlist (bind_items?_eq_none_iff.mp hitems items)
    · rfl

namespace PageList

variable {file : String}

lemma addPages_eq (i : Nat) (items : List Value) (l : PageList) :
    addPages file i items l =
      (itemVisits .page id i items).foldl (visit (fun ps p => ps ++ [p]) file) l := by
  induction items generalizing i l with
  | nil => rfl
  | cons v items ih =>
    rw [addPages, ih, itemVisits_cons, List.foldl_cons]
    cases v.string? <;> rfl

lemma addMain_eq (config : Value) (l : PageList) :
    addMain file (config.get? "pages") l =
      (mainVisits config).foldl (visit (fun ps p => ps ++ [p]) file) l := by
  unfold addMain mainVisits
  cases (config.get? "pages").bind Value.items? with
  | none => rfl
  | some items => exact addPages_eq 0 items l

lemma pushNew_eq (l : PageList) (page : String) :
    l.pushNew page = { l with pages := addNew l.pages page } := by
  unfold pushNew push addNew
  split <;> rfl

lemma addSubpages_eq (i : Nat) (root : String) (j : Nat) (items : List Value) (l : PageList) :
    addSubpages file i root j items l =
      (itemVisits (.subpage i) (subpage root) j items).foldl (visit addNew file) l := by
  induction items generalizing j l with
  | nil => rfl
  | cons v items ih =>
    rw [addSubpages, ih, itemVisits_cons, List.foldl_cons]
    cases v.string? with
    | none => rfl
    | some page =>
      simp only [pushNew_eq]
      rfl

lemma addPackage_eq (i : Nat) (package : Value) (l : PageList) :
    addPackage file i package l = (packageVisits i package).foldl (visit addNew file) l := by
  unfold addPackage packageVisits
  cases (package.get? "root").bind Value.string? with
  | none => rfl
  | some root =>
    cases (package.get? "pages").bind Value.items? with
    | none => rfl
    | some items => exact addSubpages_eq i root 0 items l

lemma addPackages_eq (i : Nat) (packages : List Value) (l : PageList) :
    addPackages file i packages l = (packagesVisits i packages).foldl (visit addNew file) l := by
  induction packages generalizing i l with
  | nil => rfl
  | cons package packages ih =>
    rw [addPackages, ih, addPackage_eq, packagesVisits, packagesVisits, List.zipIdx_cons,
      List.flatMap_cons, List.foldl_append]

end PageList

/-- **The page list is what the visits leave behind.** -/
theorem collectPages_eq (config : Value) (file : String) :
    collectPages config file =
      ⟨(pagesOf (packagesVisits 0 (subpackages config))).foldl addNew (mainPages config),
        (malformedOf (visits config)).map (Spot.finding file)⟩ := by
  have hmain : (mainPages config).foldl (fun ps p => ps ++ [p]) [] = mainPages config := by
    simp [← List.flatMap_def]
  rw [collectPages, PageList.addMain_eq, PageList.addPackages_eq, PageList.foldl_visit,
    PageList.foldl_visit, pagesOf_mainVisits, hmain]
  simp [visits, malformedOf]

/-! ### The spots that are visited -/

lemma mem_itemVisits_iff {spot : Nat → Spot} {name : String → String} {items : List Value}
    {v : Visit} :
    v ∈ itemVisits spot name 0 items ↔
      ∃ i w, items[i]? = some w ∧ v = ⟨spot i, w.string?.map name⟩ := by
  simp only [itemVisits, List.mem_map, Prod.exists, List.mk_mem_zipIdx_iff_getElem?, eq_comm]
  exact exists_comm

lemma mem_packageVisits_iff {i : Nat} {package : Value} {v : Visit} :
    v ∈ packageVisits i package ↔
      (∀ root, package.get? "root" ≠ some (.string root)) ∧ v = ⟨.package i, none⟩ ∨
      ∃ root items, Paged package root items ∧
        ∃ j w, items[j]? = some w ∧ v = ⟨.subpage i j, w.string?.map (PageList.subpage root)⟩ := by
  unfold packageVisits
  cases hroot : (package.get? "root").bind Value.string? with
  | none =>
    have hnone := bind_string?_eq_none_iff.mp hroot
    constructor
    · intro hv
      exact .inl ⟨hnone, List.mem_singleton.mp hv⟩
    · rintro (⟨-, rfl⟩ | ⟨root, items, hpaged, -⟩)
      · exact List.mem_singleton_self _
      · exact absurd hpaged.root_eq (hnone root)
  | some root =>
    have hsome := bind_string?_eq_some_iff.mp hroot
    simp only [mem_itemVisits_iff, getElem?_getD_eq_some_iff, bind_items?_eq_some_iff]
    constructor
    · rintro ⟨j, w, ⟨items, hitems, hw⟩, rfl⟩
      exact .inr ⟨root, items, ⟨hsome, hitems⟩, j, w, hw, rfl⟩
    · rintro (⟨hnone, -⟩ | ⟨root', items, ⟨hroot', hitems⟩, j, w, hw, rfl⟩)
      · exact absurd hsome (hnone root)
      · obtain rfl : root = root' := by simpa [hsome] using hroot'
        exact ⟨j, w, ⟨items, hitems, hw⟩, rfl⟩

lemma mem_malformedOf_iff {vs : List Visit} {spot : Spot} :
    spot ∈ malformedOf vs ↔ ⟨spot, none⟩ ∈ vs := by
  rw [malformedOf, List.mem_map]
  constructor
  · rintro ⟨⟨spot, page?⟩, hv, rfl⟩
    obtain ⟨hmem, hnone⟩ := List.mem_filter.mp hv
    obtain rfl : page? = none := Option.isNone_iff_eq_none.mp hnone
    exact hmem
  · intro hv
    exact ⟨_, List.mem_filter.mpr ⟨hv, rfl⟩, rfl⟩

section

variable {config : Value} {spot : Spot}

lemma mem_mainVisits_iff {v : Visit} :
    v ∈ mainVisits config ↔
      (∀ items, config.get? "pages" ≠ some (.array items)) ∧ v = ⟨.pages, none⟩ ∨
      ∃ items, config.get? "pages" = some (.array items) ∧
        ∃ i w, items[i]? = some w ∧ v = ⟨.page i, w.string?.map id⟩ := by
  unfold mainVisits
  cases hlist : (config.get? "pages").bind Value.items? with
  | none =>
    have hnone := bind_items?_eq_none_iff.mp hlist
    constructor
    · intro hv
      exact .inl ⟨hnone, List.mem_singleton.mp hv⟩
    · rintro (⟨-, rfl⟩ | ⟨items, h, -⟩)
      · exact List.mem_singleton_self _
      · exact absurd h (hnone items)
  | some items =>
    have hsome := bind_items?_eq_some_iff.mp hlist
    rw [mem_itemVisits_iff]
    constructor
    · intro hv
      exact .inr ⟨items, hsome, hv⟩
    · rintro (⟨hnone, -⟩ | ⟨items', hlist', hv⟩)
      · exact absurd hsome (hnone items)
      · obtain rfl : items = items' := by simpa [hsome] using hlist'
        exact hv

lemma mem_packagesVisits_iff {v : Visit} :
    v ∈ packagesVisits 0 (subpackages config) ↔
      ∃ i package, PackageAt config i package ∧ v ∈ packageVisits i package := by
  simp only [packagesVisits, List.mem_flatMap, Prod.exists, List.mk_mem_zipIdx_iff_getElem?,
    packageAt_iff]
  exact exists_comm

/-- The pages of subpackages are those that visits to subpackages add. -/
lemma packages_iff {page : String} :
    Packages config spot page ↔
      ⟨spot, some page⟩ ∈ packagesVisits 0 (subpackages config) := by
  simp only [mem_packagesVisits_iff, mem_packageVisits_iff]
  constructor
  · rintro ⟨hpackage, hpaged, hitem⟩
    exact ⟨_, _, hpackage, .inr ⟨_, _, hpaged, _, _, hitem, rfl⟩⟩
  · rintro ⟨i, package, hpackage, ⟨-, hv⟩ | ⟨root, items, hpaged, j, w, hw, hv⟩⟩
    · cases hv
    · obtain ⟨rfl, hpage⟩ := Visit.mk.inj hv
      obtain ⟨s, hs, rfl⟩ := Option.map_eq_some_iff.mp hpage.symm
      rw [string?_eq_some_iff.mp hs] at hw
      exact .subpage hpackage hpaged hw

/-- The malformed spots are those whose visits add nothing. -/
lemma malformed_iff : Malformed config spot ↔ ⟨spot, none⟩ ∈ visits config := by
  simp only [visits, List.mem_append, mem_mainVisits_iff, mem_packagesVisits_iff,
    mem_packageVisits_iff]
  constructor
  · intro h
    cases h with
    | pages h => exact .inl (.inl ⟨h, rfl⟩)
    | page hlist hitem hv =>
      exact .inl (.inr ⟨_, hlist, _, _, hitem, by rw [string?_eq_none_iff.mpr hv]; rfl⟩)
    | package hpackage hroot => exact .inr ⟨_, _, hpackage, .inl ⟨hroot, rfl⟩⟩
    | subpage hpackage hpaged hitem hv =>
      refine .inr ⟨_, _, hpackage, .inr ⟨_, _, hpaged, _, _, hitem, ?_⟩⟩
      rw [string?_eq_none_iff.mpr hv]
      rfl
  · rintro ((⟨h, hv⟩ | ⟨items, hlist, i, w, hw, hv⟩) |
      ⟨i, package, hpackage, ⟨hroot, hv⟩ | ⟨root, items, hpaged, j, w, hw, hv⟩⟩)
    · obtain ⟨rfl, -⟩ := Visit.mk.inj hv
      exact .pages h
    · obtain ⟨rfl, hnone⟩ := Visit.mk.inj hv
      exact .page hlist hw (string?_eq_none_iff.mp (Option.map_eq_none_iff.mp hnone.symm))
    · obtain ⟨rfl, -⟩ := Visit.mk.inj hv
      exact .package hpackage hroot
    · obtain ⟨rfl, hnone⟩ := Visit.mk.inj hv
      exact .subpage hpackage hpaged hw
        (string?_eq_none_iff.mp (Option.map_eq_none_iff.mp hnone.symm))

end

/-! ### The order of visits -/

/-- The order of visits is that of their spots. -/
def Visit.Before (v w : Visit) : Prop := v.spot.Before w.spot

lemma pairwise_snd_zipIdx {α : Type} (l : List α) (start : Nat) :
    (l.zipIdx start).Pairwise fun x y => x.2 < y.2 := by
  rw [← List.pairwise_map, List.zipIdx_map_snd]
  exact List.pairwise_lt_range'

lemma pairwise_itemVisits {spot : Nat → Spot} (hspot : ∀ i j, i < j → (spot i).Before (spot j))
    (name : String → String) (start : Nat) (items : List Value) :
    (itemVisits spot name start items).Pairwise Visit.Before :=
  List.pairwise_map.mpr ((pairwise_snd_zipIdx items start).imp fun hlt => hspot _ _ hlt)

lemma pairwise_mainVisits (config : Value) : (mainVisits config).Pairwise Visit.Before := by
  unfold mainVisits
  split
  · refine pairwise_itemVisits (fun i j hlt => ?_) _ _ _
    exact .inr ⟨rfl, Nat.succ_lt_succ hlt⟩
  · exact List.pairwise_singleton _ _

lemma pairwise_packageVisits (i : Nat) (package : Value) :
    (packageVisits i package).Pairwise Visit.Before := by
  unfold packageVisits
  split
  · exact List.pairwise_singleton _ _
  · refine pairwise_itemVisits (fun j k hlt => ?_) _ _ _
    exact .inr ⟨rfl, Nat.succ_lt_succ hlt⟩

lemma part_of_mem_mainVisits {config : Value} {v : Visit} (hv : v ∈ mainVisits config) :
    v.spot.part = 0 := by
  rcases mem_mainVisits_iff.mp hv with ⟨-, rfl⟩ | ⟨items, -, i, w, -, rfl⟩ <;> rfl

lemma part_of_mem_packageVisits {i : Nat} {package : Value} {v : Visit}
    (hv : v ∈ packageVisits i package) : v.spot.part = i + 1 := by
  rcases mem_packageVisits_iff.mp hv with ⟨-, rfl⟩ | ⟨root, items, -, j, w, -, rfl⟩ <;> rfl

lemma pairwise_packagesVisits (start : Nat) (packages : List Value) :
    (packagesVisits start packages).Pairwise Visit.Before := by
  rw [packagesVisits, List.pairwise_flatMap]
  refine ⟨fun x _ => pairwise_packageVisits _ _, (pairwise_snd_zipIdx _ _).imp ?_⟩
  intro x y hlt v hv w hw
  left
  rw [part_of_mem_packageVisits hv, part_of_mem_packageVisits hw]
  omega

/-- **A config is read in the order of its spots.** -/
lemma pairwise_visits (config : Value) : (visits config).Pairwise Visit.Before := by
  rw [visits, List.pairwise_append]
  refine ⟨pairwise_mainVisits config, pairwise_packagesVisits _ _, ?_⟩
  intro v hv w hw
  obtain ⟨i, package, -, hw⟩ := mem_packagesVisits_iff.mp hw
  left
  rw [part_of_mem_mainVisits hv, part_of_mem_packageVisits hw]
  omega

lemma mem_pagesOf_iff {vs : List Visit} {page : String} :
    page ∈ pagesOf vs ↔ ∃ spot, ⟨spot, some page⟩ ∈ vs := by
  rw [pagesOf, List.mem_filterMap]
  constructor
  · rintro ⟨⟨spot, page?⟩, hv, rfl⟩
    exact ⟨spot, hv⟩
  · rintro ⟨spot, hv⟩
    exact ⟨_, hv, rfl⟩

/-- What is met before among the pages of ordered visits is met at a spot before. -/
lemma exists_before_of_metBefore {vs : List Visit} (hvs : vs.Pairwise Visit.Before) {p q : String}
    (h : MetBefore (pagesOf vs) p q) :
    ∃ spot, ⟨spot, some p⟩ ∈ vs ∧ ∀ spot', ⟨spot', some q⟩ ∈ vs → spot.Before spot' := by
  obtain ⟨before, after, hpages, hbefore, hne⟩ := h
  obtain ⟨vs₁, vs₂, rfl, rfl, hpages₂⟩ := List.filterMap_eq_append_iff.mp hpages
  obtain ⟨skipped, ⟨spot, page?⟩, vs₃, rfl, hskipped, hp, rfl⟩ :=
    List.filterMap_eq_cons_iff.mp hpages₂
  obtain rfl : page? = some p := hp
  refine ⟨spot, by simp, fun spot' hq => ?_⟩
  -- the second page is in none of the visits up to this one, so all its spots come after
  have hlater : (⟨spot', some q⟩ : Visit) ∈ vs₃ := by
    simp only [List.mem_append, List.mem_cons, Visit.mk.injEq, Option.some.injEq] at hq
    rcases hq with hq | hq | ⟨-, rfl⟩ | hq
    · exact (hbefore (List.mem_filterMap.mpr ⟨_, hq, rfl⟩)).elim
    · cases hskipped _ hq
    · exact absurd rfl hne
    · exact hq
  exact List.rel_of_pairwise_cons
    (List.pairwise_append.mp (List.pairwise_append.mp hvs).2.1).2.1 hlater

/-! ### The page list -/

/-- A page of a subpackage stands at some spot before all those of another one. -/
def PackagedBefore (config : Value) (p q : String) : Prop :=
  ∃ spot, Packages config spot p ∧ ∀ spot', Packages config spot' q → spot.Before spot'

/-- **The page list of an entry, in full.**  The strings of its page list come first, as they are.
More pages follow, none twice and none of those before, so that altogether the pages are the strings
of the page list and the pages of subpackages; those that follow are in the order of the spots at
which they first stand.

What is found are the malformed spots, in their order.  As the order is strict, each is found
once. -/
theorem collectPages_exact (config : Value) (file : String) :
    ∃ (more : List String) (malformed : List Spot),
      (collectPages config file).pages = mainPages config ++ more ∧
      more.Nodup ∧ more.Disjoint (mainPages config) ∧
      (∀ p, p ∈ (collectPages config file).pages ↔
        p ∈ mainPages config ∨ ∃ spot, Packages config spot p) ∧
      more.Pairwise (PackagedBefore config) ∧
      (collectPages config file).findings = malformed.map (Spot.finding file) ∧
      (∀ spot, spot ∈ malformed ↔ Malformed config spot) ∧
      malformed.Pairwise Spot.Before := by
  obtain ⟨more, hpages, hmore⟩ :=
    exists_firstMet_foldl (mainPages config) (pagesOf (packagesVisits 0 (subpackages config)))
  have hmem : ∀ p, p ∈ pagesOf (packagesVisits 0 (subpackages config)) ↔
      ∃ spot, Packages config spot p := fun p =>
    mem_pagesOf_iff.trans (exists_congr fun spot => packages_iff.symm)
  rw [collectPages_eq, hpages]
  refine ⟨more, malformedOf (visits config), rfl, hmore.nodup, ?_, fun p => ?_, ?_, rfl,
    fun spot => ?_, ?_⟩
  · exact fun p hp => ((hmore.mem_iff p).mp hp).2
  · rw [List.mem_append, hmore.mem_iff, hmem]
    tauto
  · refine hmore.ordered.imp fun h => ?_
    simp only [PackagedBefore, packages_iff]
    exact exists_before_of_metBefore (pairwise_packagesVisits _ _) h
  · rw [malformed_iff, mem_malformedOf_iff]
  · exact List.pairwise_map.mpr ((pairwise_visits config).filter _)

end PageConfig.Project
