import PageConfig.Proofs.Extract.Occurrences

/-!
# Where imports and the default export stand

A scan looks at three kinds of marks: the names that imports bind, the name of
the default export, and what the module holds apart from these, its tags and
the declarations of its config.  Marks of one kind are read in their order, but
marks of different kinds are brought together only when all of them are known
(`scanMarks_congr`).

So it does not matter where the imports stand among the other items of a
module, nor where the name of the default export is given.  Names are matched
without regard to scopes, though: an import inside a namespace binds its names
like any other, so an import of the same name must not be moved past it
(`nested_import_decides`).
-/

namespace PageConfig.Source

/-! ### Interleavings -/

/-- Whether an item is an import. -/
def Stmt.isImport : Stmt → Bool
  | .imports _ _ _ => true
  | _ => false

/-- Whether an item is a default export. -/
def Stmt.isDefaultExport : Stmt → Bool
  | .exportDecl _ _ => true
  | .exportExpr _ => true
  | .exportNames (_ :: _) => true
  | _ => false

/-- An expression is a name, perhaps in wrappers, but nothing is written in their types. -/
inductive Expr.Names (name : String) : Expr → Prop where
  | ident : Names name (.ident name)
  | wrapped {w : Wrapper} {e : Expr} (hw : w.parts = []) (h : Names name e) :
    Names name (.wrapped w e)

/-- Default exports that do no more than give a name: that of an expression, or one in braces. -/
inductive Stmt.NamesDefault : Stmt → Prop where
  | expr {e : Expr} {name : String} (h : e.Names name) : NamesDefault (.exportExpr e)
  | listed (name : String) : NamesDefault (.exportNames [name])

/-- A module has these imports, this default export and these other items, each of the lists in its
order. -/
structure Interleaves (imports : List Stmt) (x : Stmt) (rest : List Stmt) (m : Module) : Prop where
  imports : m.filter Stmt.isImport = imports
  default : m.filter Stmt.isDefaultExport = [x]
  rest : m.filter (fun s => !s.isImport && !s.isDefaultExport) = rest

/-- The names that imports among some items bind, at whatever depth. -/
def bindingsIn (items : List Stmt) : List Binding :=
  (nodesOf items).flatMap fun n => match n with
    | .stmt (.imports bindings _ _) => bindings
    | _ => []

/-- What an item binds is bound among the items it stands with. -/
lemma bindingsIn_subset {s : Stmt} {items : List Stmt} (hs : s ∈ items) {b : Binding}
    (hb : b ∈ bindingsIn [s]) : b ∈ bindingsIn items := by
  obtain ⟨n, hn, hb⟩ := List.mem_flatMap.mp hb
  exact List.mem_flatMap.mpr ⟨n, List.mem_flatMap.mpr ⟨s, hs, by simpa [nodesOf] using hn⟩, hb⟩

/-! ### What each kind of items gives -/

/-- Items that give nothing may be left out. -/
lemma flatMap_filter_eq {α β : Type} {p : α → Bool} {f : α → List β} {l : List α}
    (h : ∀ a ∈ l, p a = false → f a = []) : (l.filter p).flatMap f = l.flatMap f := by
  induction l with
  | nil => rfl
  | cons a l ih =>
    have hl := ih fun b hb => h b (List.mem_cons_of_mem a hb)
    cases ha : p a with
    | true => rw [List.filter_cons_of_pos ha, List.flatMap_cons, List.flatMap_cons, hl]
    | false =>
      rw [List.filter_cons_of_neg (by simp [ha]), List.flatMap_cons, hl,
        h a List.mem_cons_self ha, List.nil_append]

section

variable {imports rest : List Stmt} {x : Stmt} {m : Module} {α : Type} {f : Stmt → List α}

/-- Every item of a module is one of its imports, its default export or one of the other items. -/
lemma Interleaves.mem_cases (hm : Interleaves imports x rest m) {s : Stmt} (hs : s ∈ m) :
    (s.isImport = true ∧ s ∈ imports) ∨ (s.isDefaultExport = true ∧ s = x) ∨
      ((!s.isImport && !s.isDefaultExport) = true ∧ s ∈ rest) := by
  cases himport : s.isImport with
  | true => exact .inl ⟨rfl, hm.imports ▸ List.mem_filter.mpr ⟨hs, himport⟩⟩
  | false =>
    cases hdefault : s.isDefaultExport with
    | true =>
      have hx : s ∈ [x] := hm.default ▸ List.mem_filter.mpr ⟨hs, hdefault⟩
      exact .inr (.inl ⟨rfl, List.mem_singleton.mp hx⟩)
    | false =>
      exact .inr (.inr ⟨rfl, hm.rest ▸ List.mem_filter.mpr ⟨hs, by rw [himport, hdefault]; rfl⟩⟩)

/-- What only imports give comes in the order of the imports. -/
lemma Interleaves.flatMap_imports (hm : Interleaves imports x rest m) (hx : f x = [])
    (hrest : ∀ s ∈ rest, f s = []) : m.flatMap f = imports.flatMap f := by
  rw [← hm.imports]
  refine (flatMap_filter_eq fun s hs himport => ?_).symm
  obtain ⟨h, -⟩ | ⟨-, rfl⟩ | ⟨-, h⟩ := hm.mem_cases hs
  · exact absurd h (by simp [himport])
  · exact hx
  · exact hrest s h

/-- What only the default export gives does not depend on where it stands. -/
lemma Interleaves.flatMap_default (hm : Interleaves imports x rest m)
    (himports : ∀ s ∈ imports, f s = []) (hrest : ∀ s ∈ rest, f s = []) : m.flatMap f = f x := by
  rw [← List.flatMap_singleton f x, ← hm.default]
  refine (flatMap_filter_eq fun s hs hdefault => ?_).symm
  obtain ⟨-, h⟩ | ⟨h, -⟩ | ⟨-, h⟩ := hm.mem_cases hs
  · exact himports s h
  · exact absurd h (by simp [hdefault])
  · exact hrest s h

/-- What only the other items give comes in the order of these items. -/
lemma Interleaves.flatMap_rest (hm : Interleaves imports x rest m)
    (himports : ∀ s ∈ imports, f s = []) (hx : f x = []) : m.flatMap f = rest.flatMap f := by
  rw [← hm.rest]
  refine (flatMap_filter_eq fun s hs hother => ?_).symm
  obtain ⟨-, h⟩ | ⟨-, rfl⟩ | ⟨h, -⟩ := hm.mem_cases hs
  · exact himports s h
  · exact hx
  · exact absurd h (by simp [hother])

end

lemma Interleaves.isImport {imports rest : List Stmt} {x : Stmt} {m : Module}
    (hm : Interleaves imports x rest m) {s : Stmt} (hs : s ∈ imports) : s.isImport = true := by
  rw [← hm.imports, List.mem_filter] at hs
  exact hs.2

end PageConfig.Source

namespace PageConfig.Extract

open PageConfig.Source

/-! ### Kinds of marks -/

/-- The parts of a module that marks tell of. -/
inductive Topic where
  | imports
  | exports
  | contents
deriving DecidableEq

/-- What a mark is about. -/
def Mark.topic : Mark → Topic
  | .tag _ => .contents
  | .field _ => .contents
  | .assignment _ _ => .contents
  | .exportName _ => .exports
  | .binding _ _ _ => .imports

/-- The marks about a topic. -/
def about (t : Topic) (marks : List Mark) : List Mark := marks.filter fun k => k.topic = t

/-- What is read off marks about one topic does not depend on the others. -/
lemma filterMap_about {α : Type} {f : Mark → Option α} {t : Topic}
    (hf : ∀ k : Mark, k.topic ≠ t → f k = none) (marks : List Mark) :
    (about t marks).filterMap f = marks.filterMap f := by
  rw [about, List.filterMap_filter]
  refine List.filterMap_congr fun k _ => ?_
  by_cases hk : k.topic = t
  · simp [hk]
  · simp [hk, hf k hk]

lemma exportNameOf_about (marks : List Mark) :
    exportNameOf (about .exports marks) = exportNameOf marks := by
  rw [exportNameOf, filterMap_about, exportNameOf]
  rintro (_ | _ | _ | _ | _) hk <;> first | rfl | exact absurd rfl hk

lemma assignedTo_about (name : String) (marks : List Mark) :
    assignedTo name (about .contents marks) = assignedTo name marks := by
  rw [assignedTo, filterMap_about, assignedTo]
  rintro (_ | _ | _ | _ | _) hk <;> first | rfl | exact absurd rfl hk

lemma fieldValues_about (marks : List Mark) :
    fieldValues (about .contents marks) = fieldValues marks := by
  rw [fieldValues, filterMap_about, fieldValues]
  rintro (_ | _ | _ | _ | _) hk <;> first | rfl | exact absurd rfl hk

lemma tagsOf_about (marks : List Mark) : tagsOf (about .contents marks) = tagsOf marks := by
  rw [tagsOf, filterMap_about, tagsOf]
  rintro (_ | _ | _ | _ | _) hk <;> first | rfl | exact absurd rfl hk

/-- A scan needs the marks about exports in their order, the marks about contents in theirs, and
where each name is imported from.  It does not need the order between them. -/
theorem scanMarks_congr {marks marks' : List Mark}
    (hexports : about .exports marks = about .exports marks')
    (hcontents : about .contents marks = about .contents marks')
    (hsources : ∀ isDefault name,
      importedFrom isDefault name marks = importedFrom isDefault name marks') :
    scanMarks marks = scanMarks marks' := by
  have hconfig : configExpr? marks = configExpr? marks' := by
    rw [configExpr?, configExpr?, ← exportNameOf_about, hexports, exportNameOf_about,
      ← fieldValues_about, hcontents, fieldValues_about]
    simp only [← assignedTo_about _ marks, hcontents, assignedTo_about]
  have husages : usagesOf marks = usagesOf marks' := by
    rw [usagesOf, usagesOf, ← tagsOf_about, hcontents, tagsOf_about]
    simp only [sourceOf, hsources]
  rw [scanMarks, scanMarks, configOf, configOf, hconfig, husages]

/-! ### The marks of items -/

lemma stmtsMarks_eq_items (m : Module) : stmtsMarks m = m.flatMap stmtMarks := by
  rw [stmtsMarks_eq_flatMap, List.flatMap_map]
  rfl

/-- An import leaves marks about imports only. -/
lemma about_of_isImport {s : Stmt} (hs : s.isImport = true) {t : Topic} (ht : t ≠ .imports) :
    about t (stmtMarks s) = [] := by
  cases s with
  | imports bindings source => simp [stmtMarks, about, Mark.topic, Ne.symm ht]
  | _ => cases hs

/-- A name in wrappers leaves no marks but that of an export. -/
lemma marks_of_names {name : String} {e : Expr} (h : e.Names name) :
    exportMark e = [.exportName (some name)] ∧ exprMarks e = [] := by
  induction h with
  | ident => exact ⟨rfl, rfl⟩
  | @wrapped w e hw _ ih =>
    have htypes : wrapperMarks w = [] := by rw [wrapperMarks_eq, hw]; rfl
    exact ⟨ih.1, by rw [exprMarks, ih.2, htypes]; rfl⟩

/-- A default export that gives a name leaves marks about exports only. -/
lemma about_of_namesDefault {s : Stmt} (hs : s.NamesDefault) {t : Topic} (ht : t ≠ .exports) :
    about t (stmtMarks s) = [] := by
  cases hs with
  | expr h =>
    obtain ⟨hexport, hexpr⟩ := marks_of_names h
    simp [stmtMarks, hexport, hexpr, about, Mark.topic, Ne.symm ht]
  | listed name => simp [stmtMarks, about, Mark.topic, Ne.symm ht]

/-- Items without a default export leave no marks about exports. -/
lemma about_exports_of_none {s : Stmt}
    (hs : ∀ t, Node.stmt t ∈ (Node.stmt s).walk → t.isDefaultExport = false) :
    about .exports (stmtMarks s) = [] := by
  rw [about, List.filter_eq_nil_iff]
  intro k hk htopic
  rw [← nodeMarks, nodeMarks_eq, List.mem_flatMap] at hk
  obtain ⟨n, hn, hk⟩ := hk
  cases mem_ownMarks_iff.mp hk with
  | exportNames hname =>
    have := hs _ hn
    cases hname <;> simp [Stmt.isDefaultExport] at this
  | exportDecl => cases hs _ hn
  | exportExpr => cases hs _ hn
  | _ => simp [Mark.topic] at htopic

/-! ### Where a name is imported from -/

/-- Whether a mark binds a name in this way. -/
def Mark.binds (b : Binding) : Mark → Bool
  | .binding isDefault name _ => (⟨isDefault, name⟩ : Binding) = b
  | _ => false

/-- Only the marks that bind a name say where it is imported from. -/
lemma importedFrom_filter (b : Binding) (marks : List Mark) :
    importedFrom b.isDefault b.name (marks.filter (Mark.binds b)) =
      importedFrom b.isDefault b.name marks := by
  rw [importedFrom, List.filterMap_filter, importedFrom]
  congr 1
  refine List.filterMap_congr fun k _ => ?_
  obtain ⟨isDefault, name⟩ := b
  cases k <;> simp +contextual [Mark.binds]

/-- Where no mark is about imports, none binds a name. -/
lemma filter_binds_of_about {marks : List Mark} (h : about .imports marks = []) {b : Binding} :
    marks.filter (Mark.binds b) = [] := by
  rw [List.filter_eq_nil_iff]
  intro k hk hbinds
  have htopic := List.filter_eq_nil_iff.mp h k hk
  cases k with
  | binding => simp [Mark.topic] at htopic
  | _ => cases hbinds

/-- Items that do not bind a name leave no marks that bind it. -/
lemma filter_binds_of_notMem {s : Stmt} {b : Binding} (hb : b ∉ bindingsIn [s]) :
    (stmtMarks s).filter (Mark.binds b) = [] := by
  rw [List.filter_eq_nil_iff]
  intro k hk hbinds
  rw [← nodeMarks, nodeMarks_eq, List.mem_flatMap] at hk
  obtain ⟨n, hn, hk⟩ := hk
  cases mem_ownMarks_iff.mp hk with
  | binding hmem =>
    obtain rfl : _ = b := by simpa [Mark.binds] using hbinds
    exact hb (List.mem_flatMap.mpr ⟨.stmt (.imports _ _ _), by simpa [nodesOf] using hn, hmem⟩)
  | _ => cases hbinds

/-! ### Scans of interleavings -/

section

variable {imports rest : List Stmt} {x : Stmt} {m : Module}

/-- The marks about exports are those of the default export. -/
lemma about_exports_of_interleaves (hm : Interleaves imports x rest m)
    (honly : ∀ s, Node.stmt s ∈ nodesOf rest → s.isDefaultExport = false) :
    about .exports (stmtsMarks m) = about .exports (stmtMarks x) := by
  rw [stmtsMarks_eq_items, about, List.filter_flatMap]
  refine hm.flatMap_default (fun s hs => about_of_isImport (hm.isImport hs) (by decide)) ?_
  intro s hs
  exact about_exports_of_none fun t ht => honly t (List.mem_flatMap.mpr ⟨s, hs, ht⟩)

/-- The marks about contents are those of the other items. -/
lemma about_contents_of_interleaves (hm : Interleaves imports x rest m) (hx : x.NamesDefault) :
    about .contents (stmtsMarks m) = rest.flatMap fun s => about .contents (stmtMarks s) := by
  rw [stmtsMarks_eq_items, about, List.filter_flatMap]
  exact hm.flatMap_rest (fun s hs => about_of_isImport (hm.isImport hs) (by decide))
    (about_of_namesDefault hx (by decide))

/-- The marks that bind a name are those of the imports, if one of them binds it, and otherwise
those of the other items. -/
lemma filter_binds_of_interleaves (hm : Interleaves imports x rest m) (hx : x.NamesDefault)
    (hapart : (bindingsIn imports).Disjoint (bindingsIn rest)) (b : Binding) :
    (stmtsMarks m).filter (Mark.binds b) =
      if b ∈ bindingsIn imports then imports.flatMap fun s => (stmtMarks s).filter (Mark.binds b)
      else rest.flatMap fun s => (stmtMarks s).filter (Mark.binds b) := by
  have hnone : (stmtMarks x).filter (Mark.binds b) = [] :=
    filter_binds_of_about (about_of_namesDefault hx (by decide))
  rw [stmtsMarks_eq_items, List.filter_flatMap]
  split
  next hb =>
    refine hm.flatMap_imports hnone fun s hs => filter_binds_of_notMem fun hb' => ?_
    exact hapart hb (bindingsIn_subset hs hb')
  next hb =>
    refine hm.flatMap_rest (fun s hs => filter_binds_of_notMem fun hb' => ?_) hnone
    exact hb (bindingsIn_subset hs hb')

end

/-- Where the imports and the default export of a module stand does not matter.

Let `m` and `m'` hold the same imports, the same default export and the same other items, each in
the same order, but mixed in different ways.  Then the scans of `m` and `m'` agree, provided that
`x` only gives a name, with no expression written in a type around it, that there is no other
default export at whatever depth, and that no import inside one of the other items binds a name that
an import of the module binds in the same way. -/
theorem interleavings_scan_alike {imports rest : List Stmt} {x : Stmt} {m m' : Module}
    (hm : Interleaves imports x rest m) (hm' : Interleaves imports x rest m')
    (hx : x.NamesDefault)
    (honly : ∀ s, Node.stmt s ∈ nodesOf rest → s.isDefaultExport = false)
    (hapart : (bindingsIn imports).Disjoint (bindingsIn rest)) : scan m = scan m' := by
  refine scanMarks_congr ?_ ?_ fun isDefault name => ?_
  · rw [about_exports_of_interleaves hm honly, about_exports_of_interleaves hm' honly]
  · rw [about_contents_of_interleaves hm hx, about_contents_of_interleaves hm' hx]
  · rw [← importedFrom_filter ⟨isDefault, name⟩, filter_binds_of_interleaves hm hx hapart,
      ← filter_binds_of_interleaves hm' hx hapart, importedFrom_filter]

/-- The import may stand below the tag that it is for, and the export above the declaration of the
config. -/
theorem interleavings_scan_alike_hoisted :
    scan [.imports [⟨true, "Box"⟩] "./box",
        .expr (.assign true (.member (.ident "Page") (.name "config")) (.object [])),
        .exportExpr (.ident "Page"),
        .classDecl (.mk [] [.method none [.expr (.element (.plain "Box") [] [])]] none [])] =
      scan [.exportExpr (.ident "Page"),
        .expr (.assign true (.member (.ident "Page") (.name "config")) (.object [])),
        .classDecl (.mk [] [.method none [.expr (.element (.plain "Box") [] [])]] none []),
        .imports [⟨true, "Box"⟩] "./box"] := by
  refine @interleavings_scan_alike [.imports [⟨true, "Box"⟩] "./box"]
    [.expr (.assign true (.member (.ident "Page") (.name "config")) (.object [])),
      .classDecl (.mk [] [.method none [.expr (.element (.plain "Box") [] [])]] none [])]
    (.exportExpr (.ident "Page")) _ _ ⟨rfl, rfl, rfl⟩ ⟨rfl, rfl, rfl⟩ (.expr .ident) ?_ ?_
  · simp [nodesOf, Node.walk_eq, Node.children, Stmt.parts, Expr.parts, Access.parts,
      ClassDef.parts, ClassMember.parts, Stmt.isDefaultExport]
  · simp [bindingsIn, nodesOf, Node.walk_eq, Node.children, Stmt.parts, Expr.parts, Access.parts,
      ClassDef.parts, ClassMember.parts, List.Disjoint]

/-- Scopes are not kept apart: an import inside a namespace binds its names like an import of the
module, so it matters which of the two comes last. -/
theorem nested_import_decides :
    ∃ (imports rest : List Stmt) (x : Stmt) (m m' : Module),
      Interleaves imports x rest m ∧ Interleaves imports x rest m' ∧ x.NamesDefault ∧
      (∀ s, Node.stmt s ∈ nodesOf rest → s.isDefaultExport = false) ∧
      (scan m).usages = [⟨"A", "./b"⟩] ∧ (scan m').usages = [⟨"A", "./a"⟩] := by
  refine ⟨[.imports [⟨true, "A"⟩] "./a"],
    [.group [.imports [⟨true, "A"⟩] "./b"], .expr (.element (.plain "A") [] [])],
    .exportExpr (.ident "P"),
    [.imports [⟨true, "A"⟩] "./a", .group [.imports [⟨true, "A"⟩] "./b"], .exportExpr (.ident "P"),
      .expr (.element (.plain "A") [] [])],
    [.group [.imports [⟨true, "A"⟩] "./b"], .imports [⟨true, "A"⟩] "./a", .exportExpr (.ident "P"),
      .expr (.element (.plain "A") [] [])],
    ⟨rfl, rfl, rfl⟩, ⟨rfl, rfl, rfl⟩, .expr .ident, ?_, ?_, ?_⟩
  · simp [nodesOf, Node.walk_eq, Node.children, Stmt.parts, Expr.parts, Stmt.isDefaultExport]
  · decide
  · decide

end PageConfig.Extract
