import PageConfig.Proofs.Resolve.Findings

/-!
# A broken component stays by itself

A component file without a scan ends its branch of the search and nothing else.
To say what that means, the files are compared with those in which it is an
empty module.  An empty module declares and uses nothing, so a search goes the
same way on both: it meets the same files, keeps the same stack and enters the
same components.  Its findings are the same too, but for the one error of the
broken file, which is recorded when that file is met (`Walks.blanked`).
-/

namespace PageConfig

/-! ### Another text for a file -/

namespace Files

/-- Whether a file is found under a path. -/
def finds (f : Files) (p : Path) : Bool := f.isFile p || (f.read p).isOk

lemma finds_iff {f : Files} {p : Path} : f.finds p = true ↔ f.Found p := by
  rw [finds, Bool.or_eq_true, Found]
  cases f.read p <;> simp [Except.isOk, Except.toBool]

/-- The text of a path once a file has another one: the new text under every spelling by which the
file is found. -/
def readReplaced (f : Files) (file : Path) (text : String) (p : Path) : Except Refusal String :=
  if file.same p && f.finds p then .ok text else f.read p

/-- A path is found after a replacement only if it was found before. -/
lemma found_of_readReplaced {f : Files} {file p : Path} {text : String}
    (h : f.isFile p = true ∨ ∃ s, f.readReplaced file text p = .ok s) : f.Found p := by
  rw [← finds_iff]
  by_contra hnot
  rcases h with h | ⟨s, hs⟩
  · exact hnot (finds_iff.mpr (Or.inl h))
  · rw [readReplaced, if_neg (by simp [hnot])] at hs
    exact hnot (finds_iff.mpr (Or.inr ⟨s, hs⟩))

/-- The files with another text in one of them. -/
def replace (f : Files) (file : Path) (text : String) : Files where
  present := f.present
  isFile := f.isFile
  read := f.readReplaced file text
  canonical := f.canonical
  write := f.write
  read_same := by
    intro p q hpq hp hq
    have hpfound := found_of_readReplaced hp
    have hqfound := found_of_readReplaced hq
    have hsame : file.same p = file.same q := by
      rw [Bool.eq_iff_iff]
      exact ⟨fun h => Path.same_trans h hpq, fun h => Path.same_trans h (Path.same_symm hpq)⟩
    rw [readReplaced, readReplaced, hsame, finds_iff.mpr hpfound, finds_iff.mpr hqfound,
      f.read_congr hpq hpfound hqfound]

variable {f : Files} {file p : Path} {text : String}

/-- The file that is replaced has the scan of the new text. -/
lemma scan_replace_of_same (hsame : file.same p = true) (hp : f.isFile p = true) :
    (f.replace file text).scan p = Extract.scanText text := by
  have hread : (f.replace file text).read p = .ok text := by
    simp [replace, readReplaced, hsame, finds, hp]
  rw [scan_eq, hread]

/-- Other files are as they were. -/
lemma scan_replace_of_apart (hapart : ¬ file.same p = true) :
    (f.replace file text).scan p = f.scan p := by
  have hread : (f.replace file text).read p = f.read p := by
    simp [replace, readReplaced, hapart]
  rw [scan_eq, scan_eq, hread]

end Files

namespace Resolve

open PageConfig.Extract (Scan Usage)

variable {f g : Files} {l : Lookup} {pageDir page file : Path} {error : String}

/-- An empty module leaves nothing out and uses nothing, and its config is the empty mapping. -/
lemma scanText_empty : Extract.scanText "" = .ok ⟨.object [], [], []⟩ := rfl

/-! ### Files that differ in a broken one -/

/-- Files that differ in one of them: in the first it has no scan, and in the second it is a module
that leaves nothing out, uses nothing and declares nothing. -/
structure Blanked (f g : Files) (file : Path) (error : String) : Prop where
  isFile : ∀ p, g.isFile p = f.isFile p
  other : ∀ p, Apart file p → g.scan p = f.scan p
  broken : ∀ p, file.same p = true → f.isFile p = true → f.scan p = .error error
  blank : ∀ p, file.same p = true → f.isFile p = true →
    ∃ scan, g.scan p = .ok scan ∧ scan.omitted = [] ∧ scan.usages = [] ∧ scan.declared? = none

/-- A broken file that is replaced by an empty module. -/
lemma blanked_replace (hfile : f.isFile file = true) (hbroken : f.scan file = .error error) :
    Blanked f (f.replace file "") file error := by
  refine ⟨fun _ => rfl, fun p hapart => Files.scan_replace_of_apart hapart, ?_, ?_⟩
  · intro p hsame hp
    rw [← Files.scan_congr hsame (Or.inl hfile) (Or.inl hp), hbroken]
  · intro p hsame hp
    exact ⟨_, (Files.scan_replace_of_same hsame hp).trans scanText_empty, rfl, rfl, rfl⟩

/-- Specifiers stand for the same files. -/
lemma Blanked.goalOf_eq (h : Blanked f g file error) : goalOf g l = goalOf f l := by
  have hisFile : g.isFile = f.isFile := funext h.isFile
  funext p specifier
  rw [goalOf, goalOf, Files.script_eq, Files.script_eq, hisFile]

/-! ### Findings without the error -/

/-- Findings of a search that has met some files, and what is left of them without the error of a
broken file: the same findings if the file was not met, and all but its one error if it was. -/
def Spared (l : Lookup) (file : Path) (error : String) (met : List Path)
    (found left : List Finding) : Prop :=
  (¬ Path.Among met file ∧ found = left) ∨
    ∃ p before after, p ∈ met ∧ p.same file = true ∧
      found = before ++ .parseError (l.display p) error :: after ∧ left = before ++ after

namespace Spared

variable {met : List Path} {found left : List Finding}

/-- More findings on both sides. -/
lemma append (h : Spared l file error met found left) (more : List Finding) :
    Spared l file error met (found ++ more) (left ++ more) := by
  rcases h with ⟨hmet, rfl⟩ | ⟨p, before, after, hp, hsame, rfl, rfl⟩
  · exact Or.inl ⟨hmet, rfl⟩
  · refine Or.inr ⟨p, before, after ++ more, hp, hsame, ?_, ?_⟩
    · rw [List.append_assoc, List.cons_append]
    · rw [List.append_assoc]

/-- Another file is met. -/
lemma cons_of_apart (h : Spared l file error met found left) {p : Path} (hp : Apart file p) :
    Spared l file error (p :: met) found left := by
  rcases h with ⟨hmet, rfl⟩ | ⟨q, before, after, hq, hsame, rfl, rfl⟩
  · refine Or.inl ⟨?_, rfl⟩
    rw [Path.among_cons]
    rintro (hfile | hfile)
    · exact hp (Path.same_symm hfile)
    · exact hmet hfile
  · exact Or.inr ⟨q, before, after, List.mem_cons_of_mem p hq, hsame, rfl, rfl⟩

/-- The broken file itself is met for the first time. -/
lemma cons_of_same (h : Spared l file error met found left) (hnew : ¬ Path.Among met file)
    {p : Path} (hp : p.same file = true) :
    Spared l file error (p :: met) (found ++ [.parseError (l.display p) error]) left := by
  rcases h with ⟨-, rfl⟩ | ⟨q, -, -, hq, hsame, -, -⟩
  · exact Or.inr ⟨p, found, [], List.mem_cons_self, hp, rfl, by rw [List.append_nil]⟩
  · exact absurd ⟨q, hq, hsame⟩ hnew

end Spared

/-- The trail with other findings. -/
def Trail.retell (t : Trail) (found : List Finding) : Trail := { t with findings := found }

/-- What a file declares is collected alike, whatever was found before. -/
lemma Blanked.entered_eq (h : Blanked f g file error) (p : Path) (scan : Scan) (t : Trail)
    (found : List Finding) :
    entered g l pageDir p scan (t.retell found)
      = (entered f l pageDir p scan t).retell
          (found ++ (omissions l p scan.omitted ++ gaps f l p (scan.declared?.getD []))) := by
  have hgoal : goalOf g l = goalOf f l := h.goalOf_eq
  simp [entered, ask_collect, Trail.retell, Trail.visit, Trail.add, contributions, referenceOf,
    gaps, hgoal]

/-- Entering a module that says nothing only meets it. -/
lemma entered_of_blank {p : Path} {scan : Scan} (homitted : scan.omitted = [])
    (hdeclared : scan.declared? = none) (t : Trail) :
    ((entered f l pageDir p scan t).push p).pop = t.visit p := by
  simp [entered, ask_collect, homitted, hdeclared, Trail.visit, Trail.add, Trail.push, Trail.pop,
    omissions, contributions, gaps, Using.insertAll]

/-! ### The search on both -/

/-- **A search goes the same way whether a file is broken or empty**, and its findings are the same
but for the error of the broken file, which is there exactly if the file was met. -/
theorem Walks.blanked (hblanked : Blanked f g file error) {e : Errand} {t t' : Trail}
    (h : Walks f l pageDir e t t') (hgoal : ∀ p, e = .visit p → f.isFile p = true)
    {left : List Finding} (hleft : Spared l file error t.visited t.findings left) :
    ∃ left', Walks g l pageDir e (t.retell left) (t'.retell left') ∧
      Spared l file error t'.visited t'.findings left' := by
  induction h generalizing left with
  | cycle hon => exact ⟨_, .cycle hon, hleft.append _⟩
  | seen hoff hseen => exact ⟨left, .seen hoff hseen, hleft⟩
  | @unscanned p t e hoff hnew hscan =>
    have hp : f.isFile p = true := hgoal p rfl
    by_cases hsame : file.same p = true
    · -- on the other side the file is scanned, and there is nothing to follow from it
      obtain ⟨scan, hscan', homitted, husages, hdeclared⟩ := hblanked.blank p hsame hp
      obtain rfl : error = e := by
        have herror := hblanked.broken p hsame hp
        rw [hscan] at herror
        exact (Except.error.inj herror).symm
      have hunmet : ¬ Path.Among t.visited file := by
        intro hfile
        rw [Bool.eq_false_iff] at hnew
        exact hnew (Trail.hasVisited_iff.mpr (hfile.congr hsame))
      refine ⟨left, ?_, hleft.cons_of_same hunmet (Path.same_symm hsame)⟩
      have hdown : Walks g l pageDir (.usages p scan.usages)
          ((entered g l pageDir p scan (t.retell left)).push p)
          ((entered g l pageDir p scan (t.retell left)).push p) := by
        rw [husages]
        exact .nil
      have hwalk : Walks g l pageDir (.visit p) (t.retell left) _ :=
        .scanned hoff hnew hscan' hdown
      rw [entered_of_blank homitted hdeclared] at hwalk
      exact hwalk
    · rw [← hblanked.other p hsame] at hscan
      exact ⟨_, .unscanned hoff hnew hscan, (hleft.cons_of_apart hsame).append _⟩
  | @scanned p t t' scan hoff hnew hscan _ ih =>
    have hp : f.isFile p = true := hgoal p rfl
    have hapart : Apart file p := by
      intro hsame
      rw [hblanked.broken p hsame hp] at hscan
      cases hscan
    have hstart : Spared l file error ((entered f l pageDir p scan t).push p).visited
        ((entered f l pageDir p scan t).push p).findings
        (left ++ (omissions l p scan.omitted ++ gaps f l p (scan.declared?.getD []))) := by
      simpa using (hleft.cons_of_apart hapart).append _
    obtain ⟨left', hdown, hleft'⟩ := ih (by simp) hstart
    refine ⟨left', ?_, hleft'⟩
    have hdown' : Walks g l pageDir (.usages p scan.usages)
        ((entered g l pageDir p scan (t.retell left)).push p) (t'.retell left') := by
      rw [hblanked.entered_eq]
      exact hdown
    rw [← hblanked.other p hapart] at hscan
    have hwalk : Walks g l pageDir (.visit p) (t.retell left) (t'.retell left').pop :=
      .scanned hoff hnew hscan hdown'
    exact hwalk
  | nil => exact ⟨left, .nil, hleft⟩
  | package hrel _ ih =>
    obtain ⟨left', hrest, hleft'⟩ := ih (by simp) hleft
    exact ⟨left', .package hrel hrest, hleft'⟩
  | missing hrel hnone _ ih =>
    obtain ⟨left', hrest, hleft'⟩ := ih (by simp) (hleft.append _)
    rw [← hblanked.goalOf_eq] at hnone
    exact ⟨left', .missing hrel hnone hrest, hleft'⟩
  | step hrel hsome _ _ ihfirst ihrest =>
    obtain ⟨left₁, hfirst, hleft₁⟩ := ihfirst (by
      intro p hp
      cases hp
      exact Files.isFile_of_script hsome) hleft
    obtain ⟨left₂, hrest, hleft₂⟩ := ihrest (by simp) hleft₁
    rw [← hblanked.goalOf_eq] at hsome
    exact ⟨left₂, .step hrel hsome hfirst hrest, hleft₂⟩

/-! ### Pages with a broken component -/

/-- A page that is not the broken file starts alike, and what is found for it differs by the error
of the broken file exactly if the file is met. -/
lemma Walks.blanked_page (hblanked : Blanked f g file error) {scan : Scan} {t : Trail}
    (h : Walks f l pageDir (.usages page scan.usages) (startTrail l page scan []) t) :
    ∃ left,
      Walks g l pageDir (.usages page scan.usages) (startTrail l page scan []) (t.retell left) ∧
      Spared l file error t.visited t.findings left := by
  have hstart : Spared l file error (startTrail l page scan []).visited
      (startTrail l page scan []).findings (startTrail l page scan []).findings := by
    refine Or.inl ⟨?_, rfl⟩
    rintro ⟨p, hp, -⟩
    cases hp
  exact h.blanked hblanked (by simp) hstart

/-- What a file uses does not change when a broken one becomes empty. -/
lemma Blanked.uses (h : Blanked f g file error) {p q : Path} (hp : f.isFile p = true ∨ Apart file p)
    (huse : Uses g l p q) : Uses f l p q := by
  by_cases hsame : file.same p = true
  · have hfile : f.isFile p = true := hp.resolve_right fun hapart => hapart hsame
    obtain ⟨scan, hscan, -, husages, -⟩ := h.blank p hsame hfile
    obtain ⟨scan', hscan', u, hu, -⟩ := huse
    rw [hscan] at hscan'
    obtain rfl := Except.ok.inj hscan'
    rw [husages] at hu
    cases hu
  · rwa [Uses, h.other p hsame, h.goalOf_eq] at huse

/-- What is reached from a page when a broken file is empty is reached when it is broken. -/
lemma Blanked.transGen (h : Blanked f g file error) (hpage : Apart file page) {p : Path}
    (hp : Relation.TransGen (Uses g l) page p) : Relation.TransGen (Uses f l) page p := by
  induction hp with
  | single hstep => exact .single (h.uses (Or.inr hpage) hstep)
  | tail hq hstep ih =>
    obtain ⟨r, -, huse⟩ := Relation.TransGen.tail'_iff.mp ih
    exact ih.tail (h.uses (Or.inl huse.isFile) hstep)

/-- A page that is not the broken file gets the same config on both, and its findings differ by the
error of the broken file exactly if that is among the files met. -/
lemma Blanked.page_eq (h : Blanked f g file error) (hpage : Apart file page) {known : List Path}
    (hknown : Covers f l page known) {depth : Nat} (hdepth : known.length < depth) :
    configAlone g l depth page = configAlone f l depth page ∧
      ∃ met, EachOnce f l page (page :: met) ∧
        Spared l file error met (findingsAlone f l depth page) (findingsAlone g l depth page) := by
  have hscan' : g.scan page = f.scan page := h.other page hpage
  cases hscan : f.scan page with
  | error e =>
    rw [hscan] at hscan'
    rw [configAlone, configAlone, findingsAlone, findingsAlone, ask_page_of_error hscan,
      ask_page_of_error hscan']
    refine ⟨rfl, [], eachOnce_of_error hscan, Or.inl ⟨?_, rfl⟩⟩
    rintro ⟨p, hp, -⟩
    cases hp
  | ok scan =>
    rw [hscan] at hscan'
    have hknown' : Covers g l page known := fun p hp => hknown p (h.transGen hpage hp)
    obtain ⟨t, hwalks, hjob⟩ := walks_page hscan hknown []
    obtain ⟨t', hwalks', hjob'⟩ := walks_page hscan' hknown' []
    obtain ⟨left, hwalksLeft, hleft⟩ := hwalks.blanked_page h
    obtain rfl : t' = t.retell left := hwalks'.unique hwalksLeft
    have hask := (hjob depth hdepth).1
    have hask' := (hjob' depth hdepth).1
    refine ⟨?_, t.visited, hwalks.eachOnce hscan, ?_⟩
    · rw [configAlone, configAlone, hask, hask']
      rfl
    · rw [findingsAlone, findingsAlone, hask, hask']
      exact hleft

/-- When the broken file is empty there is no error for it, and none that is shown for it unless
another file is shown like it. -/
lemma Blanked.parseError_not_mem (h : Blanked f g file error) (hpage : Apart file page)
    {known : List Path} (hknown : Covers f l page known) {depth : Nat}
    (hdepth : known.length < depth) {shown : String}
    (hshown : ∀ q, Reaches f l page q → l.display q = shown → q.same file = true) (e : String) :
    .parseError shown e ∉ findingsAlone g l depth page := by
  intro hmem
  have hknown' : Covers g l page known := fun p hp => hknown p (h.transGen hpage hp)
  obtain ⟨components, honce, hperm⟩ := findingsAlone_perm hknown' hdepth
  have hremark := hperm.subset (mem_remarks.mpr ⟨hmem, rfl⟩)
  rw [List.mem_append, List.mem_flatMap] at hremark
  rcases hremark with hown | ⟨q, hq, hown⟩
  · obtain ⟨-, rfl⟩ := scan_of_parseError_mem (Or.inr hown)
    exact hpage (Path.same_symm (hshown page .refl rfl))
  · obtain ⟨hscan, rfl⟩ := scan_of_parseError_mem (Or.inl hown)
    -- a component file that is shown like the broken one is the broken one, which is empty now
    have hne : page ≠ q := by
      rintro rfl
      exact (List.pairwise_cons.mp honce.apart).1 page hq (Path.same_refl page)
    have hreach := honce.reached q (List.mem_cons_of_mem page hq)
    rcases Relation.reflTransGen_iff_eq_or_transGen.mp hreach with heq | htrans
    · exact hne heq.symm
    · have htrans' := h.transGen hpage htrans
      obtain ⟨r, -, huse⟩ := Relation.TransGen.tail'_iff.mp htrans'
      have hsame := Path.same_symm (hshown q htrans'.to_reflTransGen rfl)
      obtain ⟨scan, hok, -⟩ := h.blank q hsame huse.isFile
      rw [hscan] at hok
      cases hok

/-- **A broken component stays by itself.**  Let the files that a page uses be known, directly or
through others, and let another file be there that has no scan.  Compare the files with those in
which it is an empty module.  At every depth above the number of the known files,

* the page has the same config on both;
* if the broken file can be reached from the page, then what is found for the page is the same but
  for one error of the broken file, shown as the search met it;
* if it cannot be reached, what is found for the page is the same;
* no other error is shown for the broken file, unless another file is shown like it. -/
theorem broken_component_isolated (f : Files) (l : Lookup) (page file : Path) (error : String)
    (known : List Path) (hknown : Covers f l page known) (depth : Nat)
    (hdepth : known.length < depth) (hapart : Apart page file) (hfile : f.isFile file = true)
    (hbroken : f.scan file = .error error) :
    let g := f.replace file ""
    configAlone g l depth page = configAlone f l depth page ∧
    ((∃ p, Reaches f l page p ∧ p.same file = true) →
      ∃ p before after, Reaches f l page p ∧ p.same file = true ∧
        findingsAlone f l depth page = before ++ .parseError (l.display p) error :: after ∧
        findingsAlone g l depth page = before ++ after) ∧
    ((¬ ∃ p, Reaches f l page p ∧ p.same file = true) →
      findingsAlone f l depth page = findingsAlone g l depth page) ∧
    ∀ p, p.same file = true →
      (∀ q, Reaches f l page q → l.display q = l.display p → q.same file = true) →
        ∀ e, .parseError (l.display p) e ∉ findingsAlone g l depth page := by
  intro g
  have hblanked : Blanked f g file error := blanked_replace hfile hbroken
  have hpage : Apart file page := fun hsame => hapart (Path.same_symm hsame)
  obtain ⟨hconfig, met, honce, hspared⟩ := hblanked.page_eq hpage hknown hdepth
  refine ⟨hconfig, ?_, ?_, ?_⟩
  · rintro ⟨p, hp, hsame⟩
    have hmet : Path.Among met file := by
      rcases Path.among_cons.mp ((honce.all p hp).congr hsame) with hpage' | hmet
      · exact absurd hpage' hapart
      · exact hmet
    rcases hspared with ⟨hunmet, -⟩ | ⟨q, before, after, hq, hq', hfound, hleft⟩
    · exact absurd hmet hunmet
    · exact ⟨q, before, after, honce.reached q (List.mem_cons_of_mem page hq), hq', hfound, hleft⟩
  · intro hnone
    rcases hspared with ⟨-, heq⟩ | ⟨q, -, -, hq, hq', -, -⟩
    · exact heq
    · exact absurd ⟨q, honce.reached q (List.mem_cons_of_mem page hq), hq'⟩ hnone
  · intro p _ hshown e
    exact hblanked.parseError_not_mem hpage hknown hdepth hshown e

/-- A page that uses a broken file twice, on its own and through another file that declares it too.
The broken file uses the page. -/
def cracked : Files :=
  .ofTexts [
    (⟨"/a.js"⟩, "import B from './b'\nimport C from './c'\n<B/>;<C/>"),
    (⟨"/b.js"⟩,
      "import C from './c'\nclass B\x7bconfig=\x7busingComponents:\x7bc:'./c'\x7d\x7d\x7d\n<C/>"),
    (⟨"/c.js"⟩, "import A from './a'\n<A/>(")]

/-- The broken file has no scan. -/
lemma exists_error_cracked : ∃ e, cracked.scan ⟨"/c.js"⟩ = .error e := by
  have hbroken : (cracked.scan ⟨"/c.js"⟩).isOk = false := by decide +kernel
  cases h : cracked.scan ⟨"/c.js"⟩ with
  | error e => exact ⟨e, rfl⟩
  | ok scan =>
    rw [h] at hbroken
    cases hbroken

/-- The error of the broken file is recorded once, and with an empty file in its place there is none
and the page has the same config. -/
theorem broken_component_isolated_cracked :
    findingsAlone cracked ⟨none, ⟨"/"⟩⟩ 4 ⟨"/a.js"⟩
        = [.parseError "c.js" "Expected ';', '\x7d' or <eof> (at 2:5)"] ∧
      findingsAlone (cracked.replace ⟨"/c.js"⟩ "") ⟨none, ⟨"/"⟩⟩ 4 ⟨"/a.js"⟩ = [] ∧
      configAlone (cracked.replace ⟨"/c.js"⟩ "") ⟨none, ⟨"/"⟩⟩ 4 ⟨"/a.js"⟩
        = configAlone cracked ⟨none, ⟨"/"⟩⟩ 4 ⟨"/a.js"⟩ ∧
      ∃ p, Reaches cracked ⟨none, ⟨"/"⟩⟩ ⟨"/a.js"⟩ p ∧ p.same ⟨"/c.js"⟩ = true := by
  have hfound : findingsAlone cracked ⟨none, ⟨"/"⟩⟩ 4 ⟨"/a.js"⟩
      = [.parseError "c.js" "Expected ';', '\x7d' or <eof> (at 2:5)"] := by decide +kernel
  have hleft : findingsAlone (cracked.replace ⟨"/c.js"⟩ "") ⟨none, ⟨"/"⟩⟩ 4 ⟨"/a.js"⟩ = [] := by
    decide +kernel
  have hfiles : ∀ p, cracked.isFile p = true →
      Path.Among [⟨"/a.js"⟩, ⟨"/b.js"⟩, ⟨"/c.js"⟩] p :=
    fun p hp => Files.among_of_isFile_ofTexts hp
  obtain ⟨e, hbroken⟩ := exists_error_cracked
  obtain ⟨hconfig, -, hunreached, -⟩ := broken_component_isolated cracked ⟨none, ⟨"/"⟩⟩ ⟨"/a.js"⟩
    ⟨"/c.js"⟩ e [⟨"/a.js"⟩, ⟨"/b.js"⟩, ⟨"/c.js"⟩] (covers_of_isFile hfiles) 4 (by decide)
    (by decide) (by decide) hbroken
  refine ⟨hfound, hleft, hconfig, ?_⟩
  by_contra hnone
  have heq := hunreached hnone
  rw [hfound, hleft] at heq
  cases heq

end Resolve

end PageConfig
