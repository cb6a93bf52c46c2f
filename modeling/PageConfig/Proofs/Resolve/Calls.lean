import PageConfig.Proofs.Resolve.Merge

/-!
# What each call of a search keeps

The search for a page calls `component` for one file after another, and each
call starts on the trail that the calls before it have left.  `ComesUp` tells
which calls these are: the components of the page come up first, those of a new
file come up one level further down, and after a call the search goes on with
what the call gives back.

Every call gives back the stack it was handed, and adds to everything else
(`Trail.Extends`); this needs no more than a look at each way out.  That the
stack is a path of usages from the page is a matter of which calls come up: the
file of a call is always one that the last file on the stack uses
(`ComesUp.sound`).  Along with it goes whatever holds of each finding that can be
recorded on such a stack (`Records`).
-/

namespace PageConfig.Resolve

open PageConfig.Extract (Scan Usage)

variable {f : Files} {l : Lookup} {page : Path} {before : List Finding}

/-! ### Trails that go on -/

/-- One trail goes on from another: the stack is the same, and files met, components in use and
findings are only added to, behind what was there. -/
structure Trail.Extends (t t' : Trail) : Prop where
  stack : t'.stack = t.stack
  /-- Files met last stand first. -/
  visited : t.visited <:+ t'.visited
  keys : t.inUse.entries.keys <+: t'.inUse.entries.keys
  findings : t.findings <+: t'.findings

/-- Every search goes on from its trail. -/
lemma keptBySearch_extends (f : Files) (l : Lookup) (pageDir : Path) :
    KeptBySearch f l pageDir Trail.Extends where
  refl t := ⟨rfl, List.suffix_rfl, List.prefix_rfl, List.prefix_rfl⟩
  trans h h' := ⟨h'.stack.trans h.stack, h.visited.trans h'.visited, h.keys.trans h'.keys,
    h.findings.trans h'.findings⟩
  missing t file name specifier :=
    ⟨rfl, List.suffix_rfl, List.prefix_rfl, List.prefix_append _ _⟩
  cycle t chain file := ⟨rfl, List.suffix_rfl, List.prefix_rfl, List.prefix_append _ _⟩
  unscanned t file e :=
    ⟨rfl, List.suffix_cons file t.visited, List.prefix_rfl, List.prefix_append _ _⟩
  scanned t t' file scan h := by
    have hvisited := h.visited
    have hkeys := h.keys
    have hfindings := h.findings
    rw [Trail.push_visited, entered_visited] at hvisited
    rw [Trail.push_inUse, entered_inUse] at hkeys
    rw [Trail.push_findings, entered_findings] at hfindings
    refine ⟨?_, (List.suffix_cons file t.visited).trans hvisited,
      (Using.keys_prefix_insertAll _ _).trans hkeys, (List.prefix_append _ _).trans hfindings⟩
    -- the file that was put on the stack is taken from it again
    rw [Trail.pop_stack, h.stack, Trail.push_stack, entered_stack, List.dropLast_concat]

/-! ### Calls that come up -/

/-- What comes up in the search for a page, with so much depth left: a file to follow, or components
of a file that are left to follow, on the trail of that moment. -/
inductive ComesUp (f : Files) (l : Lookup) (page : Path) (before : List Finding) :
    Nat → Errand → Trail → Prop where
  /-- The search starts with the components of the page. -/
  | start {scan : Scan} (depth : Nat) (hscan : f.scan page = .ok scan) :
      ComesUp f l page before depth (.usages page scan.usages) (startTrail l page scan before)
  /-- The file of the first component is followed. -/
  | call {depth : Nat} {file goal : Path} {u : Usage} {us : List Usage} {t : Trail}
      (h : ComesUp f l page before depth (.usages file (u :: us)) t)
      (hrel : Path.isRelativeSpecifier u.specifier = true)
      (hgoal : goalOf f l file u.specifier = some goal) :
      ComesUp f l page before depth (.visit goal) t
  /-- The search goes on with the other components after the first. -/
  | next {depth : Nat} {file : Path} {u : Usage} {us : List Usage} {t : Trail}
      (h : ComesUp f l page before depth (.usages file (u :: us)) t) :
      ComesUp f l page before depth (.usages file us)
        (tried f l (component l page.parent depth) file u t)
  /-- A new file with a scan is put on the stack, and its components come up. -/
  | down {depth : Nat} {file : Path} {t : Trail} {scan : Scan}
      (h : ComesUp f l page before (depth + 1) (.visit file) t) (hoff : t.since? file = none)
      (hnew : t.hasVisited file = false) (hscan : f.scan file = .ok scan) :
      ComesUp f l page before depth (.usages file scan.usages)
        ((entered f l page.parent file scan t).push file)

/-! ### Sound trails -/

/-- What is said of findings holds of all that the search for a page records: of those about a file
that can be reached, and of those about a cycle that is met on a sound trail. -/
structure Records (f : Files) (l : Lookup) (page : Path) (K : Finding → Prop) : Prop where
  missing : ∀ {file}, Reaches f l page file → ∀ name specifier, K (missingAt l file name specifier)
  unscanned : ∀ {file}, Reaches f l page file → ∀ e, K (.parseError (l.display file) e)
  omitted : ∀ {file}, Reaches f l page file → ∀ omitted, ∀ x ∈ omissions l file omitted, K x
  gaps : ∀ {file}, Reaches f l page file → ∀ fields, ∀ x ∈ gaps f l file fields, K x
  cycle : ∀ {t : Trail} {file chain}, t.Sound f l page → Errand.Fits f l t (.visit file) →
    t.since? file = some chain → K (cycleAt l t chain file)

/-- A sound trail with findings of which something holds. -/
structure Trail.SoundWith (f : Files) (l : Lookup) (page : Path) (K : Finding → Prop) (t : Trail) :
    Prop extends t.Sound f l page where
  recorded : ∀ x ∈ t.findings, K x

namespace Trail.SoundWith

variable {K : Finding → Prop} {t : Trail}

/-- Findings of which the same holds can be added. -/
lemma add (ht : t.SoundWith f l page K) {found : List Finding} (hfound : ∀ x ∈ found, K x) :
    (t.add found).SoundWith f l page K := by
  refine ⟨ht.toSound.add found, fun x hx => ?_⟩
  rcases List.mem_append.mp hx with hx | hx
  · exact ht.recorded x hx
  · exact hfound x hx

/-- The same holds when a new file is scanned and put on the stack. -/
lemma entered (ht : t.SoundWith f l page K) (hK : Records f l page K) (pageDir : Path)
    {file : Path} {scan : Scan} (hfit : Errand.Fits f l t (.visit file))
    (hoff : t.since? file = none) (hnew : t.hasVisited file = false) :
    ((entered f l pageDir file scan t).push file).SoundWith f l page K := by
  have hfile := ht.reaches hfit
  refine ⟨ht.toSound.entered hfit hoff hnew, fun x hx => ?_⟩
  rw [Trail.push_findings, entered_findings, List.mem_append, List.mem_append] at hx
  rcases hx with hx | hx | hx
  · exact ht.recorded x hx
  · exact hK.omitted hfile _ x hx
  · exact hK.gaps hfile _ x hx

end Trail.SoundWith

section Searches

variable {K : Finding → Prop} (hK : Records f l page K)
include hK

/-- A trail stays sound across one component that a file uses, if following it keeps it sound. -/
lemma soundWith_tried {visit : Path → Trail → Job Trail} {file : Path} {u : Usage} {us : List Usage}
    {t : Trail} (hvisit : ∀ goal, Errand.Fits f l t (.visit goal) →
      ((visit goal t).ask f).SoundWith f l page K)
    (hfit : Errand.Fits f l t (.usages file (u :: us))) (ht : t.SoundWith f l page K) :
    (tried f l visit file u t).SoundWith f l page K := by
  unfold tried
  split
  · rename_i hrel
    split
    · rename_i goal hgoal
      exact hvisit goal (hfit.first hrel hgoal)
    · have hfile := ht.stack_reached file (List.mem_of_getLast? hfit.1)
      refine ht.add fun x hx => ?_
      rw [List.mem_singleton.mp hx]
      exact hK.missing hfile _ _
  · exact ht

/-- A trail stays sound across the components that a file uses, if following one keeps it sound. -/
lemma soundWith_follow {visit : Path → Trail → Job Trail}
    (hextends : ∀ (goal : Path) (t : Trail), t.Extends ((visit goal t).ask f))
    (hvisit : ∀ goal t, Errand.Fits f l t (.visit goal) → t.SoundWith f l page K →
      ((visit goal t).ask f).SoundWith f l page K)
    {file : Path} {us : List Usage} {t : Trail} (hfit : Errand.Fits f l t (.usages file us))
    (ht : t.SoundWith f l page K) : ((follow l visit file us t).ask f).SoundWith f l page K := by
  induction us generalizing t with
  | nil => exact ht
  | cons u us ih =>
    have htried := (keptBySearch_extends f l file.parent).tried hextends file u t
    rw [ask_follow_cons]
    refine ih (hfit.rest htried.stack) (soundWith_tried hK (fun goal hgoal => ?_) hfit ht)
    exact hvisit goal t hgoal ht

/-- A trail stays sound across a file that can come up on it. -/
lemma soundWith_component (pageDir : Path) (depth : Nat) {file : Path} {t : Trail}
    (hfit : Errand.Fits f l t (.visit file)) (ht : t.SoundWith f l page K) :
    ((component l pageDir depth file t).ask f).SoundWith f l page K := by
  induction depth generalizing file t with
  | zero => exact ht
  | succ depth ih =>
    have hextends := (keptBySearch_extends f l pageDir).component (depth + 1) file t
    have hexit := exit_component f l pageDir depth file t
    generalize (component l pageDir (depth + 1) file t).ask f = t' at hextends hexit ⊢
    cases hexit with
    | cycle hon =>
      refine ht.add fun x hx => ?_
      rw [List.mem_singleton.mp hx]
      exact hK.cycle ht.toSound hfit hon
    | seen => exact ht
    | unscanned hoff hnew _ =>
      refine Trail.SoundWith.add ⟨ht.visit hfit hoff hnew, ht.recorded⟩ fun x hx => ?_
      rw [List.mem_singleton.mp hx]
      exact hK.unscanned (ht.reaches hfit) _
    | scanned hoff hnew hscan =>
      have hdown := soundWith_follow hK ((keptBySearch_extends f l pageDir).component depth)
        (fun goal t hgoal ht => ih hgoal ht) (Errand.fits_entered hscan)
        (ht.entered hK pageDir hfit hoff hnew)
      exact ⟨ht.left hdown.toSound hextends.stack hextends.visited, hdown.recorded⟩

end Searches

/-- Nothing has to hold of the findings of a sound trail. -/
lemma Trail.Sound.withAny {t : Trail} (ht : t.Sound f l page) :
    t.SoundWith f l page fun _ => True := ⟨ht, fun _ _ => trivial⟩

lemma records_any (f : Files) (l : Lookup) (page : Path) : Records f l page fun _ => True := by
  constructor <;> simp

/-- What comes up in the search for a page comes up on a sound trail, and fits it. -/
theorem ComesUp.sound {depth : Nat} {e : Errand} {t : Trail}
    (h : ComesUp f l page before depth e t) : t.Sound f l page ∧ e.Fits f l t := by
  induction h with
  | start depth hscan => exact ⟨sound_startTrail .., fits_startTrail hscan before⟩
  | call _ hrel hgoal ih => exact ⟨ih.1, ih.2.first hrel hgoal⟩
  | @next depth file u us t _ ih =>
    obtain ⟨ht, hfit⟩ := ih
    have hkept := keptBySearch_extends f l page.parent
    have htried := hkept.tried (hkept.component depth) file u t
    have hany := records_any f l page
    refine ⟨(soundWith_tried hany (fun goal hgoal => ?_) hfit ht.withAny).toSound,
      hfit.rest htried.stack⟩
    exact soundWith_component hany page.parent depth hgoal ht.withAny
  | down _ hoff hnew hscan ih =>
    exact ⟨ih.1.entered ih.2 hoff hnew, Errand.fits_entered hscan⟩

/-! ### Calls -/

/-- **A call gives its trail back.**  Whatever file comes up in the search for a page, and on
whatever trail and at whatever depth it does, following it ends with the stack it started with.
Before and after, the stack is a path of usages that starts at the page and has no file twice, and
all files on it but the page have been met.  Files that were met stay met, components in use keep
their names and places, and findings are only added, behind those of before. -/
theorem call_gives_trail_back {depth : Nat} {file : Path} {t : Trail}
    (h : ComesUp f l page before depth (.visit file) t) :
    ∃ t', (component l page.parent depth file t).ask f = t' ∧
      t'.stack = t.stack ∧
      (∀ s ∈ [t, t'], s.stack.head? = some page ∧ s.stack.IsChain (Uses f l) ∧
        s.stack.Pairwise Apart ∧ ∀ p ∈ s.stack.tail, Path.Among s.visited p) ∧
      t.visited <:+ t'.visited ∧
      t.inUse.entries.keys <+: t'.inUse.entries.keys ∧
      t.findings <+: t'.findings := by
  obtain ⟨ht, hfit⟩ := h.sound
  have hextends := (keptBySearch_extends f l page.parent).component depth file t
  have ht' := (soundWith_component (records_any f l page) page.parent depth hfit ht.withAny).toSound
  refine ⟨_, rfl, hextends.stack, ?_, hextends.visited, hextends.keys, hextends.findings⟩
  intro s hs
  have hsound : s.Sound f l page := by
    rcases List.mem_cons.mp hs with rfl | hs
    · exact ht
    · rw [List.mem_singleton.mp hs]
      exact ht'
  exact ⟨hsound.head, hsound.chain, hsound.stack_apart, hsound.stack_met⟩

/-- In the ring, the page comes up again below the file it uses, on a stack that has both. -/
theorem call_gives_trail_back_ring :
    ∃ t t', ComesUp ring ⟨none, ⟨"/"⟩⟩ ⟨"/a.js"⟩ [] 2 (.visit ⟨"/a.js"⟩) t ∧
      (component ⟨none, ⟨"/"⟩⟩ (⟨"/a.js"⟩ : Path).parent 2 ⟨"/a.js"⟩ t).ask ring = t' ∧
      t.stack = [⟨"/a.js"⟩, ⟨"/b.js"⟩] ∧ t.visited = [⟨"/b.js"⟩] ∧
      t'.stack = [⟨"/a.js"⟩, ⟨"/b.js"⟩] ∧ t'.stack.IsChain (Uses ring ⟨none, ⟨"/"⟩⟩) ∧
      t'.findings = [.cycle "a.js" ["a.js", "b.js", "a.js"]] ∧ t.findings <+: t'.findings := by
  have ha : ring.scan ⟨"/a.js"⟩ = .ok ⟨.object [], [], [⟨"B", "./b"⟩]⟩ :=
    scan_eq_of_usages (by decide +kernel)
  have hb : ring.scan ⟨"/b.js"⟩ = .ok ⟨.object [], [], [⟨"A", "./a"⟩]⟩ :=
    scan_eq_of_usages (by decide +kernel)
  have hfirst : ComesUp ring ⟨none, ⟨"/"⟩⟩ ⟨"/a.js"⟩ [] 3 (.visit ⟨"/b.js"⟩)
      (startTrail ⟨none, ⟨"/"⟩⟩ ⟨"/a.js"⟩ ⟨.object [], [], [⟨"B", "./b"⟩]⟩ []) :=
    .call (.start 3 ha) (by decide +kernel) (by decide +kernel)
  have hagain : ComesUp ring ⟨none, ⟨"/"⟩⟩ ⟨"/a.js"⟩ [] 2 (.visit ⟨"/a.js"⟩) _ :=
    .call (.down hfirst rfl rfl hb) (by decide +kernel) (by decide +kernel)
  obtain ⟨t', hask, hstack, hpath, -, -, hfindings⟩ := call_gives_trail_back hagain
  refine ⟨_, t', hagain, hask, rfl, rfl, hstack, (hpath t' (by simp)).2.1, ?_, hfindings⟩
  rw [← hask]
  decide +kernel

end PageConfig.Resolve
