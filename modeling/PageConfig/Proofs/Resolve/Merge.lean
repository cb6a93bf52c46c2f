import PageConfig.Proofs.Json.Fields
import PageConfig.Proofs.Resolve.Reachable

/-!
# What a page collects

Each file that the search for a page scans enters what it declares, and nothing
else touches the components in use.  So at the end they are what the page
declares, with the contributions of all files that were met written over it in
the order of the search (`Walks.inUse_eq`).  Which files these are is known from
the usage graph, and from then on the order matters only for which of several
contributions to a key is the last.
-/

namespace PageConfig.Resolve

open PageConfig.Extract (Scan Usage)
open PageConfig.Json (Value Fields)

variable {f : Files} {l : Lookup} {pageDir page : Path}

/-! ### Entries one after another -/

namespace Using

@[simp] lemma insertAll_nil (u : Using) : u.insertAll [] = u := rfl

@[simp] lemma insertAll_cons (u : Using) (e : String × String) (es : List (String × String)) :
    u.insertAll (e :: es) = (u.insert e.1 e.2).insertAll es := rfl

lemma insertAll_append (u : Using) (es more : List (String × String)) :
    u.insertAll (es ++ more) = (u.insertAll es).insertAll more := List.foldl_append

/-- The keys before are the first ones after. -/
lemma keys_prefix_insertAll (u : Using) (es : List (String × String)) :
    u.entries.keys <+: (u.insertAll es).entries.keys := by
  induction es generalizing u with
  | nil => exact List.prefix_rfl
  | cons e es ih => exact (Fields.keys_prefix_keys_insert _ _ _).trans (ih (u.insert e.1 e.2))

/-- A key that is not entered keeps its value. -/
lemma get?_insertAll_of_not_mem {es : List (String × String)} {key : String}
    (h : ∀ reference, (key, reference) ∉ es) (u : Using) :
    Fields.get? (u.insertAll es).entries key = Fields.get? u.entries key := by
  induction es generalizing u with
  | nil => rfl
  | cons e es ih =>
    obtain ⟨name, reference⟩ := e
    have hne : key ≠ name := by
      rintro rfl
      exact h reference (by simp)
    have hrest : ∀ r, (key, r) ∉ es := fun r hr => h r (List.mem_cons_of_mem _ hr)
    rw [insertAll_cons, ih hrest, insert, Fields.get?_insert, if_neg hne]

/-- A key that is entered has one of the values it is entered with. -/
lemma get?_insertAll_of_mem {es : List (String × String)} {key : String}
    (h : ∃ reference, (key, reference) ∈ es) (u : Using) :
    ∃ reference, (key, reference) ∈ es ∧
      Fields.get? (u.insertAll es).entries key = some (.string reference) := by
  induction es generalizing u with
  | nil => simp at h
  | cons e es ih =>
    obtain ⟨name, reference⟩ := e
    by_cases hlater : ∃ r, (key, r) ∈ es
    · obtain ⟨r, hr, hget⟩ := ih hlater (u.insert name reference)
      exact ⟨r, List.mem_cons_of_mem _ hr, hget⟩
    · -- the first entry is the only one for the key, so nothing replaces it
      obtain ⟨r, hr⟩ := h
      obtain ⟨rfl, rfl⟩ : key = name ∧ r = reference := by
        rcases List.mem_cons.mp hr with hr | hr
        · exact Prod.mk.inj hr
        · exact absurd ⟨r, hr⟩ hlater
      refine ⟨r, hr, ?_⟩
      rw [insertAll_cons, get?_insertAll_of_not_mem fun r' hr' => hlater ⟨r', hr'⟩, insert,
        Fields.get?_insert, if_pos rfl]

/-- The keys are those from before and those entered. -/
lemma mem_keys_insertAll {es : List (String × String)} {key : String} (u : Using) :
    key ∈ (u.insertAll es).entries.keys ↔
      key ∈ u.entries.keys ∨ ∃ reference, (key, reference) ∈ es := by
  by_cases h : ∃ reference, (key, reference) ∈ es
  · obtain ⟨reference, -, hget⟩ := get?_insertAll_of_mem h u
    exact ⟨fun _ => Or.inr h, fun _ => Fields.mem_keys_iff.mpr ⟨_, hget⟩⟩
  · have hnone : ∀ reference, (key, reference) ∉ es := fun r hr => h ⟨r, hr⟩
    rw [Fields.mem_keys_iff, Fields.mem_keys_iff, get?_insertAll_of_not_mem hnone]
    exact ⟨Or.inl, fun hkey => hkey.resolve_right h⟩

end Using

/-! ### Contributions -/

/-- A file contributes a reference for a name: it is scanned and declares the name with a text that
is a package, which is its own reference, or that stands for a file, which the page names by its
place. -/
def Contributes (f : Files) (l : Lookup) (pageDir file : Path) (name reference : String) : Prop :=
  ∃ scan fields specifier, f.scan file = .ok scan ∧ scan.declared? = some fields ∧
    (name, Value.string specifier) ∈ fields ∧
      ((Path.isRelativeSpecifier specifier = false ∧ reference = specifier) ∨
        (Path.isRelativeSpecifier specifier = true ∧ ∃ goal,
          goalOf f l file specifier = some goal ∧ reference = Path.moduleReference pageDir goal))

/-- What a file contributes does not depend on how its path is spelled. -/
lemma Contributes.congr {p q : Path} {name reference : String}
    (h : Contributes f l pageDir p name reference) (hpq : p.same q = true) (hq : f.Found q) :
    Contributes f l pageDir q name reference := by
  obtain ⟨scan, fields, specifier, hscan, hfields, hmem, hreference⟩ := h
  have hp : f.Found p := Files.found_of_scan hscan
  refine ⟨scan, fields, specifier, ?_, hfields, hmem, ?_⟩
  · rw [← Files.scan_congr hpq hp hq, hscan]
  · rcases hreference with hpackage | ⟨hrel, goal, hgoal, hreference⟩
    · exact Or.inl hpackage
    · exact Or.inr ⟨hrel, goal, by rw [← goalOf_congr hpq hrel, hgoal], hreference⟩

/-- The entries that a file adds, if it is scanned. -/
def contributedBy (f : Files) (l : Lookup) (pageDir file : Path) : List (String × String) :=
  match f.scan file with
  | .ok scan => contributions f l pageDir file (scan.declared?.getD [])
  | .error _ => []

/-- The reference for a text. -/
lemma referenceOf_eq_some {file : Path} {v : Value} {reference : String} :
    referenceOf f l pageDir file v = some reference ↔
      ∃ specifier, v = .string specifier ∧
        ((Path.isRelativeSpecifier specifier = false ∧ reference = specifier) ∨
          (Path.isRelativeSpecifier specifier = true ∧ ∃ goal,
            goalOf f l file specifier = some goal ∧
              reference = Path.moduleReference pageDir goal)) := by
  cases v with
  | string s =>
    by_cases hrel : Path.isRelativeSpecifier s = true
    · simp [referenceOf, Value.string?, hrel, @eq_comm _ reference]
    · simp [referenceOf, Value.string?, hrel, @eq_comm _ reference]
  | _ => simp [referenceOf, Value.string?]

/-- The entries that a file adds are what it contributes. -/
lemma mem_contributedBy {file : Path} {name reference : String} :
    (name, reference) ∈ contributedBy f l pageDir file ↔
      Contributes f l pageDir file name reference := by
  unfold contributedBy Contributes
  cases hscan : f.scan file with
  | error e => simp
  | ok scan =>
    cases hfields : scan.declared? with
    | none => simp [contributions, hfields]
    | some fields =>
      simp only [contributions, hfields, Option.getD_some, List.mem_filterMap, Option.map_eq_some_iff,
        Prod.mk.injEq, Prod.exists, referenceOf_eq_some]
      constructor
      · rintro ⟨_, _, hmem, _, ⟨specifier, rfl, hreference⟩, rfl, rfl⟩
        exact ⟨scan, fields, specifier, rfl, hfields, hmem, hreference⟩
      · rintro ⟨scan', fields', specifier, hscan', hfields', hmem, hreference⟩
        cases hscan'
        rw [hfields] at hfields'
        cases hfields'
        exact ⟨name, _, hmem, reference, ⟨specifier, rfl, hreference⟩, rfl, rfl⟩

/-- An errand enters the contributions of the files that it meets, in order. -/
lemma Walks.inUse_eq {e : Errand} {t t' : Trail} (h : Walks f l pageDir e t t') :
    ∃ new : List Path, t'.visited = new.reverse ++ t.visited ∧
      t'.inUse = t.inUse.insertAll (new.flatMap (contributedBy f l pageDir)) := by
  induction h with
  | cycle => exact ⟨[], rfl, rfl⟩
  | seen => exact ⟨[], rfl, rfl⟩
  | @unscanned file t _ _ _ hscan =>
    refine ⟨[file], rfl, ?_⟩
    simp [contributedBy, hscan]
  | @scanned file t t' scan _ _ hscan _ ih =>
    obtain ⟨new, hvisited, hinUse⟩ := ih
    refine ⟨file :: new, ?_, ?_⟩
    · simp [hvisited]
    · have hfile : contributedBy f l pageDir file
          = contributions f l pageDir file (scan.declared?.getD []) := by
        simp [contributedBy, hscan]
      rw [Trail.pop_inUse, hinUse, Trail.push_inUse, entered_inUse, List.flatMap_cons,
        Using.insertAll_append, hfile]
  | nil => exact ⟨[], rfl, rfl⟩
  | package _ _ ih => exact ih
  | missing _ _ _ ih => exact ih
  | step _ _ _ _ ihfirst ihrest =>
    obtain ⟨new₁, hvisited₁, hinUse₁⟩ := ihfirst
    obtain ⟨new₂, hvisited₂, hinUse₂⟩ := ihrest
    refine ⟨new₁ ++ new₂, ?_, ?_⟩
    · rw [hvisited₂, hvisited₁, List.reverse_append, List.append_assoc]
    · rw [hinUse₂, hinUse₁, List.flatMap_append, Using.insertAll_append]

/-! ### Pages -/

/-- A reference that some component file of a page contributes for a name: a file other than the
page that can be reached from it. -/
def Collected (f : Files) (l : Lookup) (page : Path) (name reference : String) : Prop :=
  ∃ p, Reaches f l page p ∧ Apart page p ∧ Contributes f l page.parent p name reference

/-- The components in use that fields declare: none, unless they are a mapping. -/
def declaredIn (fields : Fields) : Fields :=
  ((Fields.get? fields usingKey).bind Value.fields?).getD []

/-- The search for a page starts with what the page declares and enters what its component files
contribute. -/
lemma Walks.exists_entries {t : Trail} {scan : Scan} {before : List Finding}
    (hscan : f.scan page = .ok scan)
    (h : Walks f l page.parent (.usages page scan.usages) (startTrail l page scan before) t) :
    ∃ es, t.inUse = (Using.ofDeclared scan.declared?).insertAll es ∧
      ∀ name reference, (name, reference) ∈ es ↔ Collected f l page name reference := by
  obtain ⟨new, hvisited, hinUse⟩ := h.inUse_eq
  have hsound : t.Sound f l page := h.sound (fits_startTrail hscan before) (sound_startTrail ..)
  have hmem : ∀ p, p ∈ new ↔ p ∈ t.visited := by simp [hvisited, startTrail]
  refine ⟨_, hinUse, fun name reference => ?_⟩
  rw [List.mem_flatMap]
  constructor
  · rintro ⟨p, hp, hentry⟩
    rw [hmem] at hp
    exact ⟨p, hsound.visited_reached p hp, hsound.visited_page p hp, mem_contributedBy.mp hentry⟩
  · rintro ⟨p, hp, hapart, hentry⟩
    obtain ⟨q, hq, hsame⟩ := (h.among_visited_iff hscan hp).mpr hapart
    have hfound : f.Found q :=
      (hsound.visited_reached q hq).found (Files.found_of_scan hscan)
    exact ⟨q, (hmem q).mpr hq,
      mem_contributedBy.mpr (hentry.congr (Path.same_symm hsame) hfound)⟩

/-- Fields with components in use written into them, unless there are none. -/
def written (fields : Fields) (u : Using) : Fields :=
  if u.entries = [] then fields else Fields.insert fields usingKey u.value

/-- A mapping with components in use written into it. -/
lemma Using.into_object (u : Using) (fields : Fields) :
    u.into (.object fields) = .object (written fields u) := by
  unfold Using.into Using.isEmpty written
  cases u.entries <;> rfl

/-- What is declared after components in use are written that keep what was declared. -/
lemma declaredIn_written {fields : Fields} {u : Using}
    (h : (declaredIn fields).keys <+: u.entries.keys) :
    declaredIn (written fields u) = u.entries := by
  by_cases hempty : u.entries = []
  · rw [hempty] at h
    rw [written, if_pos hempty, hempty]
    exact List.map_eq_nil_iff.mp (List.prefix_nil.mp h)
  · rw [written, if_neg hempty, declaredIn, Fields.get?_insert, if_pos rfl]
    rfl

/-- Writing components in use leaves all other fields as they are. -/
lemma filter_written (fields : Fields) (u : Using) :
    (written fields u).filter (fun e => e.1 ≠ usingKey) = fields.filter fun e => e.1 ≠ usingKey := by
  by_cases hempty : u.entries = []
  · rw [written, if_pos hempty]
  · rw [written, if_neg hempty]
    exact Fields.filter_insert _ _ _

/-- Components in use keep their place, and are the last field if they had none. -/
lemma keys_written {fields : Fields} {u : Using} (h : u.entries ≠ []) :
    (written fields u).keys
      = if usingKey ∈ fields.keys then fields.keys else fields.keys ++ [usingKey] := by
  rw [written, if_neg h]
  by_cases hkey : usingKey ∈ fields.keys
  · rw [if_pos hkey, Fields.keys_insert_of_mem hkey]
  · rw [if_neg hkey, Fields.insert_of_not_mem hkey, Fields.keys_append, Fields.keys_cons,
      Fields.keys_nil]

/-- Writing what is declared changes nothing. -/
lemma written_declaredIn (fields : Fields) : written fields ⟨declaredIn fields⟩ = fields := by
  by_cases hempty : declaredIn fields = []
  · rw [written, if_pos hempty]
  · rw [written, if_neg hempty, Using.value]
    unfold declaredIn at hempty ⊢
    cases hget : Fields.get? fields usingKey with
    | none => simp [hget] at hempty
    | some v =>
      cases v with
      | object declared => exact Fields.insert_get? hget
      | _ => simp [hget, Value.fields?] at hempty

/-- **A page collects what its component files declare.**  Let the page be scanned, with a mapping
as its config, and let the files that it uses be known, directly or through others.  Then at every
depth above their number the page gets a mapping again, in which

* the components in use are those that the page declares and those that its component files
  contribute;
* a component that some component file contributes has a reference that some component file
  contributes for it, and every other one the value that the page declares;
* the components that the page declares come first, in their order;
* all other fields are as they were.  If nothing is contributed, so is the whole mapping; otherwise
  the components in use keep their place, and are the last field if they had none. -/
theorem page_collects_contributions (f : Files) (l : Lookup) (page : Path) (scan : Scan)
    (fields : Fields) (known : List Path) (hknown : Covers f l page known)
    (hscan : f.scan page = .ok scan) (hconfig : scan.config = .object fields)
    (before : List Finding) (depth : Nat) (hdepth : known.length < depth) :
    ∃ (fields' : Fields) (found : List Finding),
      (Resolve.page l depth page before).ask f = (some (.object fields'), found) ∧
      (∀ name, name ∈ (declaredIn fields').keys ↔
        name ∈ (declaredIn fields).keys ∨ ∃ reference, Collected f l page name reference) ∧
      (∀ name, (∃ reference, Collected f l page name reference) →
        ∃ reference, Collected f l page name reference ∧
          Fields.get? (declaredIn fields') name = some (.string reference)) ∧
      (∀ name, (¬ ∃ reference, Collected f l page name reference) →
        Fields.get? (declaredIn fields') name = Fields.get? (declaredIn fields) name) ∧
      (declaredIn fields).keys <+: (declaredIn fields').keys ∧
      (fields'.filter (fun e => e.1 ≠ usingKey) = fields.filter fun e => e.1 ≠ usingKey) ∧
      ((¬ ∃ name reference, Collected f l page name reference) → fields' = fields) ∧
      ((∃ name reference, Collected f l page name reference) →
        fields'.keys = if usingKey ∈ fields.keys then fields.keys else fields.keys ++ [usingKey]) := by
  obtain ⟨t, hwalks, hjob⟩ := walks_page hscan hknown before
  obtain ⟨es, hinUse, hes⟩ := hwalks.exists_entries hscan
  have hstart : Using.ofDeclared scan.declared? = ⟨declaredIn fields⟩ := by
    simp [Using.ofDeclared, declaredIn, Scan.declared?, hconfig, Value.get?, Value.fields?, usingKey]
  rw [hstart] at hinUse
  have hprefix : (declaredIn fields).keys <+: t.inUse.entries.keys := by
    rw [hinUse]
    exact Using.keys_prefix_insertAll _ _
  have hdeclared := declaredIn_written hprefix
  simp only [← hes]
  refine ⟨written fields t.inUse, t.findings, ?_, ?_, ?_, ?_, ?_, filter_written _ _, ?_, ?_⟩
  · rw [(hjob depth hdepth).1, hconfig, Using.into_object]
  · intro name
    rw [hdeclared, hinUse, Using.mem_keys_insertAll]
  · intro name hname
    rw [hdeclared, hinUse]
    exact Using.get?_insertAll_of_mem hname _
  · intro name hname
    rw [hdeclared, hinUse, Using.get?_insertAll_of_not_mem fun r hr => hname ⟨r, hr⟩]
  · rw [hdeclared]
    exact hprefix
  · intro hnone
    have hnil : es = [] := List.eq_nil_iff_forall_not_mem.mpr fun e he => hnone ⟨e.1, e.2, he⟩
    rw [hinUse, hnil, Using.insertAll_nil, written_declaredIn]
  · rintro ⟨name, reference, hentry⟩
    have hname : name ∈ t.inUse.entries.keys := by
      rw [hinUse, Using.mem_keys_insertAll]
      exact Or.inr ⟨reference, hentry⟩
    refine keys_written fun hnil => ?_
    simp [hnil] at hname

/-- A page that declares a component, and a file it uses that declares it too, and another one. -/
def overlap : Files :=
  .ofTexts [
    (⟨"/a.js"⟩,
      "import B from './b'\nclass A\x7bconfig=\x7busingComponents:\x7bx:'p'\x7d\x7d\x7d\n<B/>"),
    (⟨"/b.js"⟩, "class B\x7bconfig=\x7busingComponents:\x7by:'./a',x:'q'\x7d\x7d\x7d")]

/-- The page has a mapping as its config. -/
lemma exists_fields_overlap :
    ∃ scan fields, overlap.scan ⟨"/a.js"⟩ = .ok scan ∧ scan.config = .object fields := by
  have hkeys : ((overlap.scan ⟨"/a.js"⟩).toOption.bind (·.config.fields?)).map Fields.keys
      = some [usingKey] := by decide +kernel
  cases hscan : overlap.scan ⟨"/a.js"⟩ with
  | error e => simp [hscan, Except.toOption] at hkeys
  | ok scan =>
    cases hconfig : scan.config with
    | object fields => exact ⟨scan, fields, rfl, hconfig⟩
    | _ => simp [hscan, hconfig, Except.toOption, Value.fields?] at hkeys

/-- The page keeps its component in the first place, with the reference of the file, and gets the
other one. -/
theorem page_collects_contributions_overlap :
    ((((Resolve.page ⟨none, ⟨"/"⟩⟩ 3 ⟨"/a.js"⟩ []).ask overlap).1.bind Value.fields?).map
        fun fields => (declaredIn fields).map fun e => (e.1, e.2.string?))
      = some [("x", some "q"), ("y", some "./a")] ∧
    ∃ scan fields, overlap.scan ⟨"/a.js"⟩ = .ok scan ∧ scan.config = .object fields ∧
      ∃ (fields' : Fields) (found : List Finding),
        (Resolve.page ⟨none, ⟨"/"⟩⟩ 3 ⟨"/a.js"⟩ []).ask overlap = (some (.object fields'), found) ∧
        (∀ name, name ∈ (declaredIn fields').keys ↔ name ∈ (declaredIn fields).keys ∨
          ∃ reference, Collected overlap ⟨none, ⟨"/"⟩⟩ ⟨"/a.js"⟩ name reference) ∧
        (declaredIn fields).keys <+: (declaredIn fields').keys := by
  obtain ⟨scan, fields, hscan, hconfig⟩ := exists_fields_overlap
  have hfiles : ∀ p, overlap.isFile p = true → Path.Among [⟨"/a.js"⟩, ⟨"/b.js"⟩] p :=
    fun p hp => Files.among_of_isFile_ofTexts hp
  obtain ⟨fields', found, hask, hkeys, -, -, hprefix, -⟩ :=
    page_collects_contributions overlap ⟨none, ⟨"/"⟩⟩ ⟨"/a.js"⟩ scan fields
      [⟨"/a.js"⟩, ⟨"/b.js"⟩] (covers_of_isFile hfiles) hscan hconfig [] 3 (by decide)
  exact ⟨by decide +kernel, scan, fields, hscan, hconfig, fields', found, hask, hkeys, hprefix⟩

end PageConfig.Resolve
