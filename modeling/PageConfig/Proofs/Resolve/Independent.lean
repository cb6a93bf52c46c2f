import PageConfig.Proofs.Resolve.Walk

/-!
# Pages are searched afresh

The findings of all pages go into one list, which is handed from page to page.
A search only adds to it: it goes the same way whatever was found before, and
leaves that in front (`ask_component_precede`).  So the config of a page, and
what is found for it, are those of a search that starts with no findings, and
pages that are searched one after another do not see each other.

What a search adds is about files and their components, never about the list
of pages (`keptBySearch_adds`).
-/

namespace PageConfig.Resolve

open PageConfig.Extract (Scan Usage)
open PageConfig.Json (Value Fields)

variable {f : Files} {l : Lookup} {pageDir : Path}

/-! ### Findings of before -/

/-- The trail with other findings in front of its own. -/
def Trail.precede (before : List Finding) (t : Trail) : Trail :=
  { t with findings := before ++ t.findings }

namespace Trail

variable (before : List Finding) (t : Trail)

@[simp] lemma since?_precede (file : Path) : (t.precede before).since? file = t.since? file := rfl

@[simp] lemma hasVisited_precede (file : Path) :
    (t.precede before).hasVisited file = t.hasVisited file := rfl

/-- Findings are added behind those of before. -/
@[simp] lemma add_precede (found : List Finding) :
    (t.precede before).add found = (t.add found).precede before := by
  simp [add, precede]

@[simp] lemma visit_precede (file : Path) :
    (t.precede before).visit file = (t.visit file).precede before := rfl

@[simp] lemma push_precede (file : Path) :
    (t.precede before).push file = (t.push file).precede before := rfl

@[simp] lemma pop_precede : (t.precede before).pop = t.pop.precede before := rfl

end Trail

/-- The cycle that is recorded does not depend on what was found before. -/
@[simp] lemma cycleAt_precede (before : List Finding) (t : Trail) (chain : List Path)
    (file : Path) : cycleAt l (t.precede before) chain file = cycleAt l t chain file := rfl

/-- Collecting what a file declares leaves findings of before in front. -/
lemma ask_collect_precede (before : List Finding) (file : Path) (fields : Fields) (t : Trail) :
    (collect l pageDir file fields (t.precede before)).ask f
      = ((collect l pageDir file fields t).ask f).precede before := by
  simp [ask_collect, Trail.precede]

/-- Following components leaves findings of before in front, if following one does. -/
lemma ask_follow_precede (before : List Finding) {visit : Path → Trail → Job Trail}
    (hvisit : ∀ goal t, (visit goal (t.precede before)).ask f
      = ((visit goal t).ask f).precede before)
    (file : Path) (us : List Usage) (t : Trail) :
    (follow l visit file us (t.precede before)).ask f
      = ((follow l visit file us t).ask f).precede before := by
  induction us generalizing t with
  | nil => rfl
  | cons u us ih =>
    by_cases hrel : Path.isRelativeSpecifier u.specifier = true
    · cases hgoal : goalOf f l file u.specifier with
      | none => simp [follow, hrel, ask_target, hgoal, ih]
      | some goal => simp [follow, hrel, ask_target, hgoal, ih, hvisit]
    · simp [follow, hrel, ih]

/-- Following a component goes the same way whatever was found before, and leaves that in front. -/
lemma ask_component_precede (before : List Finding) (depth : Nat) (file : Path) (t : Trail) :
    (component l pageDir depth file (t.precede before)).ask f
      = ((component l pageDir depth file t).ask f).precede before := by
  induction depth generalizing file t with
  | zero => rfl
  | succ depth ih =>
    cases hon : t.since? file with
    | some chain => simp [component, hon]
    | none =>
      cases hseen : t.hasVisited file with
      | true => simp [component, hon, hseen]
      | false =>
        cases hscan : f.scan file with
        | error e => simp [component, hon, hseen, ask_scanned, hscan]
        | ok scan =>
          simp [component, hon, hseen, ask_scanned, hscan, ask_collect_precede,
            ask_follow_precede before ih]

/-! ### What a search adds -/

/-- A finding about a file and its components, as opposed to the list of pages. -/
def ofSearch : Finding → Bool
  | .missingPage _ _ => false
  | .invalidEntry _ _ => false
  | _ => true

/-- One trail comes from another by adding findings about files and their components. -/
def Adds (t t' : Trail) : Prop :=
  ∃ found, t'.findings = t.findings ++ found ∧ ∀ x ∈ found, ofSearch x = true

namespace Adds

lemma refl (t : Trail) : Adds t t := ⟨[], by simp, by simp⟩

lemma trans {t t' t'' : Trail} (h : Adds t t') (h' : Adds t' t'') : Adds t t'' := by
  obtain ⟨found, heq, hall⟩ := h
  obtain ⟨found', heq', hall'⟩ := h'
  refine ⟨found ++ found', by rw [heq', heq, List.append_assoc], fun x hx => ?_⟩
  rcases List.mem_append.mp hx with hx | hx
  · exact hall x hx
  · exact hall' x hx

/-- Only the findings of a trail count. -/
lemma of_findings {t t' : Trail} {found : List Finding} (h : t'.findings = t.findings ++ found)
    (hall : ∀ x ∈ found, ofSearch x = true) : Adds t t' := ⟨found, h, hall⟩

end Adds

/-- What a file leaves out is a finding about the file. -/
lemma ofSearch_of_mem_omissions {file : Path} {omitted : List Extract.Omission} {x : Finding}
    (hx : x ∈ omissions l file omitted) : ofSearch x = true := by
  obtain ⟨o, -, rfl⟩ := List.mem_map.mp hx
  rfl

/-- What a file declares and cannot be found is a finding about the file. -/
lemma ofSearch_of_mem_gaps {file : Path} {fields : Fields} {x : Finding}
    (hx : x ∈ gaps f l file fields) : ofSearch x = true := by
  obtain ⟨d, -, hd⟩ := List.mem_filterMap.mp hx
  obtain ⟨s, -, hs⟩ := Option.bind_eq_some_iff.mp hd
  split at hs
  · obtain rfl := Option.some.inj hs
    rfl
  · cases hs

/-- Every step of a search adds such findings. -/
lemma keptBySearch_adds (f : Files) (l : Lookup) (pageDir : Path) :
    KeptBySearch f l pageDir Adds where
  refl := Adds.refl
  trans := Adds.trans
  missing t file name specifier := Adds.of_findings rfl (by simp [missingAt, ofSearch])
  cycle t chain file := Adds.of_findings rfl (by simp [cycleAt, ofSearch])
  unscanned t file e := Adds.of_findings rfl (by simp [ofSearch])
  scanned t t' file scan h := by
    have hentered : Adds t ((entered f l pageDir file scan t).push file) := by
      refine Adds.of_findings (entered_findings file scan t) fun x hx => ?_
      rcases List.mem_append.mp hx with hx | hx
      · exact ofSearch_of_mem_omissions hx
      · exact ofSearch_of_mem_gaps hx
    exact hentered.trans h

/-! ### Pages -/

/-- The config that a page gets when it is searched alone, if it can be scanned. -/
def configAlone (f : Files) (l : Lookup) (depth : Nat) (file : Path) : Option Value :=
  ((page l depth file []).ask f).1

/-- What is found for a page when it is searched alone. -/
def findingsAlone (f : Files) (l : Lookup) (depth : Nat) (file : Path) : List Finding :=
  ((page l depth file []).ask f).2

/-- A page without a scan has no config, and is found to have none. -/
lemma ask_page_of_error {file : Path} {e : String} (hscan : f.scan file = .error e) (depth : Nat)
    (before : List Finding) :
    (page l depth file before).ask f = (none, before ++ [.parseError (l.display file) e]) := by
  simp [page, ask_scanned, hscan]

/-- The trail at the end of the search for a page. -/
def searched (f : Files) (l : Lookup) (depth : Nat) (file : Path) (scan : Scan)
    (before : List Finding) : Trail :=
  (follow l (component l file.parent depth) file scan.usages (startTrail l file scan before)).ask f

/-- A page with a scan gets its config and its findings from a search. -/
lemma ask_page_of_ok {file : Path} {scan : Scan} (hscan : f.scan file = .ok scan) (depth : Nat)
    (before : List Finding) :
    (page l depth file before).ask f
      = (some ((searched f l depth file scan before).inUse.into scan.config),
          (searched f l depth file scan before).findings) := by
  simp [page, ask_scanned, hscan, startTrail, searched]

/-- The search for a page leaves findings of before in front. -/
lemma searched_eq_precede (f : Files) (l : Lookup) (depth : Nat) (file : Path) (scan : Scan)
    (before : List Finding) :
    searched f l depth file scan before = (searched f l depth file scan []).precede before := by
  have hstart : startTrail l file scan before = (startTrail l file scan []).precede before := by
    simp [startTrail, Trail.precede]
  rw [searched, hstart, ask_follow_precede before (ask_component_precede before depth)]
  rfl

/-- A page is searched as if it were the only one: what was found before stays in front. -/
lemma ask_page (f : Files) (l : Lookup) (depth : Nat) (file : Path) (before : List Finding) :
    (page l depth file before).ask f
      = (configAlone f l depth file, before ++ findingsAlone f l depth file) := by
  rw [configAlone, findingsAlone]
  cases hscan : f.scan file with
  | error e => simp [ask_page_of_error hscan]
  | ok scan =>
    rw [ask_page_of_ok hscan, ask_page_of_ok hscan, searched_eq_precede]
    rfl

/-- A page has a config exactly when it can be scanned. -/
lemma isSome_configAlone (f : Files) (l : Lookup) (depth : Nat) (file : Path) :
    (configAlone f l depth file).isSome = (f.scan file).isOk := by
  rw [configAlone]
  cases hscan : f.scan file with
  | error e => simp [ask_page_of_error hscan, Except.isOk, Except.toBool]
  | ok scan => simp [ask_page_of_ok hscan, Except.isOk, Except.toBool]

/-- What is found for a page is about files and their components. -/
lemma ofSearch_of_mem_findingsAlone {depth : Nat} {file : Path} {x : Finding}
    (hx : x ∈ findingsAlone f l depth file) : ofSearch x = true := by
  rw [findingsAlone] at hx
  cases hscan : f.scan file with
  | error e =>
    obtain rfl : x = .parseError (l.display file) e := by
      simpa [ask_page_of_error hscan] using hx
    rfl
  | ok scan =>
    rw [ask_page_of_ok hscan] at hx
    have hkept := keptBySearch_adds f l file.parent
    have hadds : Adds (startTrail l file scan []) (searched f l depth file scan []) :=
      hkept.follow (hkept.component depth) file scan.usages _
    obtain ⟨found, heq, hall⟩ := hadds
    rw [heq, startTrail, List.nil_append] at hx
    rcases List.mem_append.mp hx with hx | hx
    · exact ofSearch_of_mem_omissions hx
    · exact hall x hx

/-- Pages that are searched one after another get what each gets alone. -/
lemma ask_pages (f : Files) (l : Lookup) (depth : Nat) (files : List Path)
    (before : List Finding) :
    (pages l depth files before).ask f
      = (files.map (configAlone f l depth), before ++ files.flatMap (findingsAlone f l depth)) := by
  induction files generalizing before with
  | nil => simp [pages]
  | cons file files ih => simp [pages, ask_page, ih]

end PageConfig.Resolve
