import Mathlib.Data.List.Chain
import PageConfig.Proofs.Resolve.Walk

/-!
# What a search meets

The stack of a search is a path of the usage graph from the page, without
repetition, and all of it but the page has been met (`Trail.Sound`).  The files
met are reached from the page and pairwise different.  In the other direction,
a file that an errand has met is done when the errand is: everything it uses
has been met or is still on the stack (`Walks.closed`).  At the end the stack
is the page alone, so what was met is exactly what can be reached.
-/

namespace PageConfig.Resolve

open PageConfig.Extract (Scan Usage)
open PageConfig.Json (Value Fields)

variable {f : Files} {l : Lookup} {pageDir page : Path}

/-- Two paths that are not the same. -/
abbrev Apart (p q : Path) : Prop := ¬ p.same q = true

/-! ### Sound trails -/

/-- A trail that a search for a page can have. -/
structure Trail.Sound (f : Files) (l : Lookup) (page : Path) (t : Trail) : Prop where
  head : t.stack.head? = some page
  /-- Each file on the stack uses the next. -/
  chain : t.stack.IsChain (Uses f l)
  stack_apart : t.stack.Pairwise Apart
  /-- All files on the stack but the page have been met. -/
  stack_met : ∀ p ∈ t.stack.tail, Path.Among t.visited p
  stack_reached : ∀ p ∈ t.stack, Reaches f l page p
  visited_apart : t.visited.Pairwise Apart
  visited_reached : ∀ p ∈ t.visited, Reaches f l page p
  /-- The page itself is never met. -/
  visited_page : ∀ p ∈ t.visited, Apart page p

/-- An errand that can come up on a trail: the last file on the stack is the one whose components
are followed. -/
def Errand.Fits (f : Files) (l : Lookup) (t : Trail) : Errand → Prop
  | .visit file => ∃ user, t.stack.getLast? = some user ∧ Uses f l user file
  | .usages file us =>
    t.stack.getLast? = some file ∧ ∃ scan, f.scan file = .ok scan ∧ ∀ u ∈ us, u ∈ scan.usages

/-- The errand of a component that comes first. -/
lemma Errand.Fits.first {t : Trail} {file goal : Path} {u : Usage} {us : List Usage}
    (h : Errand.Fits f l t (.usages file (u :: us)))
    (hrel : Path.isRelativeSpecifier u.specifier = true)
    (hgoal : goalOf f l file u.specifier = some goal) : Errand.Fits f l t (.visit goal) := by
  obtain ⟨hlast, scan, hscan, hsub⟩ := h
  exact ⟨file, hlast, scan, hscan, u, hsub u (by simp), hrel, hgoal⟩

/-- The errand of the components that are left. -/
lemma Errand.Fits.rest {t t' : Trail} {file : Path} {u : Usage} {us : List Usage}
    (h : Errand.Fits f l t (.usages file (u :: us))) (hstack : t'.stack = t.stack) :
    Errand.Fits f l t' (.usages file us) := by
  obtain ⟨hlast, scan, hscan, hsub⟩ := h
  exact ⟨by rw [hstack, hlast], scan, hscan, fun v hv => hsub v (List.mem_cons_of_mem u hv)⟩

/-- The errand of the components of a file that has just been scanned. -/
lemma Errand.fits_entered {t : Trail} {file : Path} {scan : Scan} (hscan : f.scan file = .ok scan) :
    Errand.Fits f l ((entered f l pageDir file scan t).push file) (.usages file scan.usages) :=
  ⟨by simp, scan, hscan, fun _ hu => hu⟩

/-- The file of an errand is reached from the page. -/
lemma Trail.Sound.reaches {t : Trail} {file : Path} (ht : t.Sound f l page)
    (hfit : Errand.Fits f l t (.visit file)) : Reaches f l page file := by
  obtain ⟨user, hlast, huse⟩ := hfit
  exact (ht.stack_reached user (List.mem_of_getLast? hlast)).tail huse

/-- The page is the first file on the stack. -/
lemma Trail.Sound.headD_stack {t : Trail} (ht : t.Sound f l page) (other : Path) :
    t.stack.headD other = page := by
  rw [List.headD_eq_head?_getD, ht.head, Option.getD_some]

/-- More findings do not matter. -/
lemma Trail.Sound.add {t : Trail} (ht : t.Sound f l page) (fs : List Finding) :
    (t.add fs).Sound f l page :=
  ⟨ht.head, ht.chain, ht.stack_apart, ht.stack_met, ht.stack_reached, ht.visited_apart,
    ht.visited_reached, ht.visited_page⟩

/-- A new file is not the page. -/
lemma Trail.Sound.apart_page {t : Trail} {file : Path} (ht : t.Sound f l page)
    (hoff : t.since? file = none) : Apart page file := by
  intro hsame
  exact Trail.since?_eq_none.mp hoff ⟨page, List.mem_of_mem_head? ht.head, hsame⟩

/-- A trail stays sound when a new file is met. -/
lemma Trail.Sound.visit {t : Trail} {file : Path} (ht : t.Sound f l page)
    (hfit : Errand.Fits f l t (.visit file)) (hoff : t.since? file = none)
    (hnew : t.hasVisited file = false) : (t.visit file).Sound f l page := by
  refine ⟨ht.head, ht.chain, ht.stack_apart, ?_, ht.stack_reached, ?_, ?_, ?_⟩
  · exact fun p hp => (ht.stack_met p hp).mono fun q hq => List.mem_cons_of_mem file hq
  · refine List.pairwise_cons.mpr ⟨fun p hp hsame => ?_, ht.visited_apart⟩
    rw [Bool.eq_false_iff] at hnew
    exact hnew (Trail.hasVisited_iff.mpr ⟨p, hp, Path.same_symm hsame⟩)
  · intro p hp
    rcases List.mem_cons.mp hp with rfl | hp
    · exact ht.reaches hfit
    · exact ht.visited_reached p hp
  · intro p hp
    rcases List.mem_cons.mp hp with rfl | hp
    · exact ht.apart_page hoff
    · exact ht.visited_page p hp

/-- A trail stays sound when the components of a new file are about to be followed. -/
lemma Trail.Sound.entered {t : Trail} {file : Path} {scan : Scan} (ht : t.Sound f l page)
    (hfit : Errand.Fits f l t (.visit file)) (hoff : t.since? file = none)
    (hnew : t.hasVisited file = false) :
    ((entered f l pageDir file scan t).push file).Sound f l page := by
  have hvisit := ht.visit hfit hoff hnew
  obtain ⟨user, hlast, huse⟩ := id hfit
  have hne : t.stack ≠ [] := by
    intro hnil
    simp [hnil] at hlast
  refine ⟨?_, ?_, ?_, ?_, ?_, ?_, ?_, ?_⟩
  · simp [ht.head]
  · rw [Trail.push_stack, entered_stack]
    refine List.isChain_append.mpr ⟨ht.chain, List.isChain_singleton file, ?_⟩
    intro p hp q hq
    obtain rfl : user = p := by simpa [hlast] using hp
    obtain rfl : file = q := by simpa using hq
    exact huse
  · rw [Trail.push_stack, entered_stack]
    refine List.pairwise_append.mpr ⟨ht.stack_apart, List.pairwise_singleton _ _, ?_⟩
    intro p hp q hq hsame
    obtain rfl : q = file := by simpa using hq
    exact Trail.since?_eq_none.mp hoff ⟨p, hp, hsame⟩
  · intro p hp
    rw [Trail.push_stack, entered_stack, List.tail_append_of_ne_nil hne] at hp
    rw [Trail.push_visited, entered_visited]
    rcases List.mem_append.mp hp with hp | hp
    · exact hvisit.stack_met p hp
    · obtain rfl : p = file := by simpa using hp
      exact Path.among_of_mem (by simp)
  · intro p hp
    rw [Trail.push_stack, entered_stack] at hp
    rcases List.mem_append.mp hp with hp | hp
    · exact ht.stack_reached p hp
    · obtain rfl : p = file := by simpa using hp
      exact ht.reaches hfit
  · simpa using hvisit.visited_apart
  · simpa using hvisit.visited_reached
  · simpa using hvisit.visited_page

/-- A trail is sound again when a file that was followed is left. -/
lemma Trail.Sound.left {t t' : Trail} (ht : t.Sound f l page) (ht' : t'.Sound f l page)
    (hstack : t'.pop.stack = t.stack) (hvisited : t.visited <:+ t'.visited) :
    t'.pop.Sound f l page := by
  refine ⟨?_, ?_, ?_, ?_, ?_, ht'.visited_apart, ht'.visited_reached, ht'.visited_page⟩
  · rw [hstack, ht.head]
  · rw [hstack]
    exact ht.chain
  · rw [hstack]
    exact ht.stack_apart
  · rw [hstack]
    exact fun p hp => (ht.stack_met p hp).mono fun q hq => hvisited.subset hq
  · rw [hstack]
    exact ht.stack_reached

/-- What can come up on a sound trail leaves it sound. -/
theorem Walks.sound {e : Errand} {t t' : Trail} (h : Walks f l pageDir e t t')
    (hfit : e.Fits f l t) (ht : t.Sound f l page) : t'.Sound f l page := by
  induction h with
  | cycle => exact ht.add _
  | seen => exact ht
  | unscanned hoff hnew _ => exact (ht.visit hfit hoff hnew).add _
  | scanned hoff hnew hscan hdown ih =>
    have hend := ih (Errand.fits_entered hscan) (ht.entered hfit hoff hnew)
    obtain ⟨hstack, hvisited⟩ := (Walks.scanned hoff hnew hscan hdown).frame
    exact ht.left hend hstack hvisited
  | nil => exact ht
  | package _ _ ih => exact ih (hfit.rest rfl) ht
  | missing _ _ _ ih => exact ih (hfit.rest rfl) (ht.add _)
  | step hrel hgoal hfirst _ ihfirst ihrest =>
    exact ihrest (hfit.rest hfirst.frame.1) (ihfirst (hfit.first hrel hgoal) ht)

/-- The search for a page starts with a sound trail. -/
lemma sound_startTrail (page : Path) (scan : Scan) (before : List Finding) :
    (startTrail l page scan before).Sound f l page := by
  refine ⟨rfl, List.isChain_singleton page, List.pairwise_singleton _ _, ?_, ?_, List.Pairwise.nil,
    ?_, ?_⟩
  · simp [startTrail]
  · intro p hp
    obtain rfl : p = page := by simpa [startTrail] using hp
    exact .refl
  · simp [startTrail]
  · simp [startTrail]

/-- The search for a page starts with an errand that fits. -/
lemma fits_startTrail {page : Path} {scan : Scan} (hscan : f.scan page = .ok scan)
    (before : List Finding) :
    Errand.Fits f l (startTrail l page scan before) (.usages page scan.usages) :=
  ⟨rfl, scan, hscan, fun _ hu => hu⟩

/-! ### Everything is met -/

/-- A file that is being followed or was met. -/
def Trail.Met (t : Trail) (p : Path) : Prop := Path.Among t.stack p ∨ Path.Among t.visited p

/-- A file is done: everything it uses is being followed or was met. -/
def Done (f : Files) (l : Lookup) (t : Trail) (p : Path) : Prop := ∀ q, Uses f l p q → t.Met q

/-- An errand forgets nothing. -/
lemma Walks.met_mono {e : Errand} {t t' : Trail} (h : Walks f l pageDir e t t') {p : Path}
    (hp : t.Met p) : t'.Met p := by
  obtain ⟨hstack, hvisited⟩ := h.frame
  rcases hp with hp | hp
  · exact Or.inl (by rwa [hstack])
  · exact Or.inr (hp.mono fun q hq => hvisited.subset hq)

/-- What an errand leads to: its file, or the files of its components. -/
def Errand.Goal (f : Files) (l : Lookup) : Errand → Path → Prop
  | .visit file, p => p = file
  | .usages file us, p => ∃ u ∈ us, Path.isRelativeSpecifier u.specifier = true ∧
      goalOf f l file u.specifier = some p

/-- The goals of components are that of the first and those of the others. -/
lemma Errand.goal_cons {file p : Path} {u : Usage} {us : List Usage} :
    Errand.Goal f l (.usages file (u :: us)) p ↔
      (Path.isRelativeSpecifier u.specifier = true ∧ goalOf f l file u.specifier = some p) ∨
        Errand.Goal f l (.usages file us) p := by
  simp only [Errand.Goal, List.exists_mem_cons_iff]

/-- A package adds no goal. -/
lemma Errand.goal_package {file p : Path} {u : Usage} {us : List Usage}
    (hrel : Path.isRelativeSpecifier u.specifier = false) :
    Errand.Goal f l (.usages file (u :: us)) p ↔ Errand.Goal f l (.usages file us) p := by
  simp [Errand.goal_cons, hrel]

/-- A component without a file adds no goal. -/
lemma Errand.goal_missing {file p : Path} {u : Usage} {us : List Usage}
    (hgoal : goalOf f l file u.specifier = none) :
    Errand.Goal f l (.usages file (u :: us)) p ↔ Errand.Goal f l (.usages file us) p := by
  simp [Errand.goal_cons, hgoal]

/-- A component with a file adds it to the goals. -/
lemma Errand.goal_step {file goal p : Path} {u : Usage} {us : List Usage}
    (hrel : Path.isRelativeSpecifier u.specifier = true)
    (hgoal : goalOf f l file u.specifier = some goal) :
    Errand.Goal f l (.usages file (u :: us)) p ↔
      goal = p ∨ Errand.Goal f l (.usages file us) p := by
  simp [Errand.goal_cons, hrel, hgoal]

/-- What a scanned file uses are the goals of its components. -/
lemma Uses.goal {file p : Path} {scan : Scan} (h : Uses f l file p)
    (hscan : f.scan file = .ok scan) : Errand.Goal f l (.usages file scan.usages) p := by
  obtain ⟨scan', hscan', hu⟩ := h
  obtain rfl : scan' = scan := by
    rw [hscan'] at hscan
    exact Except.ok.inj hscan
  exact hu

/-- When a file is left, it was met, so nothing is forgotten. -/
lemma Walks.met_pop {t t' : Trail} {file : Path} {scan : Scan}
    (hdown : Walks f l pageDir (.usages file scan.usages)
      ((entered f l pageDir file scan t).push file) t') {p : Path} (hp : t'.Met p) :
    t'.pop.Met p := by
  obtain ⟨hstack, hvisited⟩ := hdown.frame
  rcases hp with hp | hp
  · rw [hstack, Trail.push_stack, entered_stack, Path.among_append] at hp
    rcases hp with hp | ⟨q, hq, hsame⟩
    · exact Or.inl (by simpa [hstack] using hp)
    · obtain rfl : q = file := by simpa using hq
      exact Or.inr ⟨q, hvisited.subset (by simp), hsame⟩
  · exact Or.inr hp

/-- An errand meets its goals, and every file that it meets is done with it. -/
theorem Walks.closed {e : Errand} {t t' : Trail} (h : Walks f l pageDir e t t') :
    (∀ p, e.Goal f l p → t'.Met p) ∧ ∀ p ∈ t'.visited, p ∈ t.visited ∨ Done f l t' p := by
  induction h with
  | cycle hon =>
    obtain ⟨before, q, rest, hstack, hsame, -⟩ := Trail.since?_eq_some hon
    refine ⟨?_, fun p hp => Or.inl hp⟩
    rintro p rfl
    exact Or.inl ⟨q, by simp [hstack], hsame⟩
  | seen _ hseen =>
    refine ⟨?_, fun p hp => Or.inl hp⟩
    rintro p rfl
    exact Or.inr (Trail.hasVisited_iff.mp hseen)
  | @unscanned file t _ _ _ hscan =>
    refine ⟨?_, ?_⟩
    · rintro p rfl
      exact Or.inr (Path.among_of_mem (by simp))
    · intro p hp
      rcases List.mem_cons.mp hp with rfl | hp
      · exact Or.inr fun q hq => absurd hq (not_uses_of_error hscan)
      · exact Or.inl hp
  | @scanned file t t' scan _ _ hscan hdown ih =>
    obtain ⟨hgoals, hdone⟩ := ih
    have hfile : file ∈ t'.visited := hdown.frame.2.subset (by simp)
    refine ⟨?_, ?_⟩
    · rintro p rfl
      exact Or.inr (Path.among_of_mem hfile)
    · intro p hp
      have hpop : Done f l t' p → Done f l t'.pop p := fun hd q hq => hdown.met_pop (hd q hq)
      rcases hdone p hp with hp | hp
      · rcases List.mem_cons.mp (by simpa using hp) with rfl | hp
        · exact Or.inr (hpop fun q hq => hgoals q (hq.goal hscan))
        · exact Or.inl hp
      · exact Or.inr (hpop hp)
  | nil =>
    refine ⟨?_, fun p hp => Or.inl hp⟩
    rintro p ⟨u, hu, -⟩
    simp at hu
  | package hrel _ ih => exact ⟨fun p hp => ih.1 p ((Errand.goal_package hrel).mp hp), ih.2⟩
  | missing _ hnone _ ih => exact ⟨fun p hp => ih.1 p ((Errand.goal_missing hnone).mp hp), ih.2⟩
  | step hrel hsome hfirst hrest ihfirst ihrest =>
    refine ⟨?_, ?_⟩
    · intro p hp
      rcases (Errand.goal_step hrel hsome).mp hp with rfl | hp
      · exact hrest.met_mono (ihfirst.1 _ rfl)
      · exact ihrest.1 p hp
    · intro p hp
      rcases ihrest.2 p hp with hp | hp
      · rcases ihfirst.2 p hp with hp | hp
        · exact Or.inl hp
        · exact Or.inr fun q hq => hrest.met_mono (hp q hq)
      · exact Or.inr hp

/-- The search for a page meets everything that can be reached from it. -/
lemma Walks.met_of_reaches {t : Trail} {scan : Scan} {before : List Finding}
    (hscan : f.scan page = .ok scan)
    (h : Walks f l pageDir (.usages page scan.usages) (startTrail l page scan before) t) {p : Path}
    (hp : Reaches f l page p) : t.Met p := by
  have hpage : f.Found page := Files.found_of_scan hscan
  have hsound : t.Sound f l page := h.sound (fits_startTrail hscan before) (sound_startTrail ..)
  obtain ⟨hgoals, hdone⟩ := h.closed
  induction hp with
  | refl => exact Or.inl (Path.among_of_mem (List.mem_of_mem_head? hsound.head))
  | @tail q r hq hstep ih =>
    -- what `q` uses is what the spelling of `q` uses under which it was met
    rcases ih with ⟨q', hq', hsame⟩ | ⟨q', hq', hsame⟩
    · have hstack : t.stack = [page] := h.frame.1
      obtain rfl : q' = page := by simpa [hstack] using hq'
      exact hgoals r ((hstep.congr (Path.same_symm hsame) hpage).goal hscan)
    · have hfound : f.Found q' := (hsound.visited_reached q' hq').found hpage
      rcases hdone q' hq' with hmem | hmem
      · simp [startTrail] at hmem
      · exact hmem r (hstep.congr (Path.same_symm hsame) hfound)

/-- The files met in the search for a page are those that can be reached from it, without the page
itself. -/
lemma Walks.among_visited_iff {t : Trail} {scan : Scan} {before : List Finding}
    (hscan : f.scan page = .ok scan)
    (h : Walks f l pageDir (.usages page scan.usages) (startTrail l page scan before) t) {p : Path}
    (hp : Reaches f l page p) : Path.Among t.visited p ↔ Apart page p := by
  have hsound : t.Sound f l page := h.sound (fits_startTrail hscan before) (sound_startTrail ..)
  constructor
  · rintro ⟨q, hq, hsame⟩ hpage
    exact hsound.visited_page q hq (Path.same_trans hpage (Path.same_symm hsame))
  · intro hapart
    rcases h.met_of_reaches hscan hp with ⟨q, hq, hsame⟩ | hmet
    · have hstack : t.stack = [page] := h.frame.1
      obtain rfl : q = page := by simpa [hstack] using hq
      exact absurd hsame hapart
    · exact hmet

/-! ### Every file once -/

/-- **Components are scanned once, and all of them.**  Where only finitely many paths are files,
the search for a page that can be scanned ends, and at every depth above their number the job of
the page gives what the search gives.  It reads the page, and then the files that were met: they
are pairwise different paths and none is the page, all of them are reached from the page, and
everything else that can be reached is the page itself. -/
theorem page_reads_reachable_once (f : Files) (l : Lookup) (page : Path) (scan : Scan)
    (known : List Path) (hfiles : ∀ p, f.isFile p = true → Path.Among known p)
    (hscan : f.scan page = .ok scan) (before : List Finding) :
    ∃ t, Walks f l page.parent (.usages page scan.usages) (startTrail l page scan before) t ∧
      (∀ depth, known.length < depth →
        (Resolve.page l depth page before).ask f
          = (some (t.inUse.into scan.config), t.findings) ∧
        (Resolve.page l depth page before).reads f = page :: t.visited.reverse) ∧
      (page :: t.visited.reverse).Pairwise Apart ∧
      (∀ p ∈ t.visited, Reaches f l page p) ∧
      ∀ p, Reaches f l page p → (Path.Among t.visited p ↔ Apart page p) := by
  obtain ⟨t, hwalks, hjob⟩ := walks_page hscan (covers_of_isFile hfiles) before
  have hsound : t.Sound f l page :=
    hwalks.sound (fits_startTrail hscan before) (sound_startTrail ..)
  refine ⟨t, hwalks, hjob, ?_, hsound.visited_reached, fun p hp => hwalks.among_visited_iff hscan hp⟩
  refine List.pairwise_cons.mpr ⟨?_, ?_⟩
  · exact fun p hp => hsound.visited_page p (List.mem_reverse.mp hp)
  · refine List.pairwise_reverse.mpr (hsound.visited_apart.imp fun hapart hsame => ?_)
    exact hapart (Path.same_symm hsame)

/-- The scan of a module without a config is known from the components it uses. -/
lemma scan_eq_of_usages {s : Except String Scan} {us : List Usage}
    (h : (s.toOption.map fun scan =>
        (scan.config.fields?.map Fields.keys, scan.omitted, scan.usages)) = some (some [], [], us)) :
    s = .ok ⟨.object [], [], us⟩ := by
  cases s with
  | error e => cases h
  | ok scan =>
    obtain ⟨config, omitted, usages⟩ := scan
    cases config with
    | object fields =>
      simp only [Except.toOption, Option.map_some, Value.fields?, Option.some.injEq, Prod.mk.injEq,
        Fields.keys, List.map_eq_nil_iff] at h
      obtain ⟨rfl, rfl, rfl⟩ := h
      rfl
    | _ => simp [Except.toOption, Value.fields?] at h

/-- Two files that use each other. -/
def ring : Files :=
  .ofTexts [(⟨"/a.js"⟩, "import B from './b'\n<B/>"), (⟨"/b.js"⟩, "import A from './a'\n<A/>")]

/-- The files of the ring are the two. -/
lemma among_of_isFile_ring {p : Path} (h : ring.isFile p = true) :
    Path.Among [⟨"/a.js"⟩, ⟨"/b.js"⟩] p :=
  Files.among_of_isFile_ofTexts h

/-- The first file of the ring has a scan. -/
lemma exists_scan_ring : ∃ scan, ring.scan ⟨"/a.js"⟩ = .ok scan := by
  have hok : (ring.scan ⟨"/a.js"⟩).isOk = true := by decide +kernel
  cases h : ring.scan ⟨"/a.js"⟩ with
  | ok scan => exact ⟨scan, rfl⟩
  | error e =>
    rw [h] at hok
    cases hok

/-- From one file of the ring, the other is scanned and then neither again. -/
theorem page_reads_reachable_once_ring :
    (Resolve.page ⟨none, ⟨"/"⟩⟩ 3 ⟨"/a.js"⟩ []).reads ring = [⟨"/a.js"⟩, ⟨"/b.js"⟩] ∧
      ∃ scan t, ring.scan ⟨"/a.js"⟩ = .ok scan ∧
        Walks ring ⟨none, ⟨"/"⟩⟩ (⟨"/a.js"⟩ : Path).parent (.usages ⟨"/a.js"⟩ scan.usages)
          (startTrail ⟨none, ⟨"/"⟩⟩ ⟨"/a.js"⟩ scan []) t ∧
        (⟨"/a.js"⟩ :: t.visited.reverse).Pairwise Apart ∧
        ∀ p, Reaches ring ⟨none, ⟨"/"⟩⟩ ⟨"/a.js"⟩ p →
          (Path.Among t.visited p ↔ Apart ⟨"/a.js"⟩ p) := by
  obtain ⟨scan, hscan⟩ := exists_scan_ring
  obtain ⟨t, hwalks, -, hapart, -, hiff⟩ := page_reads_reachable_once ring ⟨none, ⟨"/"⟩⟩ ⟨"/a.js"⟩
    scan [⟨"/a.js"⟩, ⟨"/b.js"⟩] (fun p hp => among_of_isFile_ring hp) hscan []
  exact ⟨by decide +kernel, scan, t, hscan, hwalks, hapart, hiff⟩

end PageConfig.Resolve
