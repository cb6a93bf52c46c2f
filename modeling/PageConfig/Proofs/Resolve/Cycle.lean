import PageConfig.Proofs.Resolve.Reachable

/-!
# Cycles

A search records a cycle when it comes to a file that is on its stack.  The
files from there on use each other in a circle, since the stack is a path of
the usage graph.  In the other direction, a search that records no cycle leaves
every file that it is done with *grounded*: no infinite path of usages starts
there.  A file is grounded when all that it uses is, and the files it uses are
done before it is, so that at the end the page is grounded and nothing that can
be reached from it lies on a cycle.

A circle is shown as it was walked, so that its first file stands at the end
again under the spelling in which it was met last.  That is another one than at
the front only if a file is met under two spellings, which takes a platform with
a slash in its name or a page given with an untidy path (`cycle_shows_spelling`).
-/

namespace PageConfig.Resolve

open PageConfig.Extract (Scan Usage)

variable {f : Files} {l : Lookup} {pageDir page : Path}

/-! ### Recorded cycles are genuine -/

/-- Files that use each other in a circle: each one the next, and the last one the first again,
perhaps in another spelling. -/
structure Circle (f : Files) (l : Lookup) (files : List Path) (again : Path) : Prop where
  /-- The last file comes back to the first. -/
  closed : ∃ first, files.head? = some first ∧ first.same again = true
  apart : files.Pairwise Apart
  chain : (files ++ [again]).IsChain (Uses f l)

/-- A finding that tells of a cycle names the page and a circle that can be reached from it. -/
def Genuine (f : Files) (l : Lookup) (page : Path) (x : Finding) : Prop :=
  ∀ shown chain, x = .cycle shown chain → shown = l.display page ∧
    ∃ files again, Circle f l files again ∧ (∀ p ∈ files, Reaches f l page p) ∧
      chain = files.map l.display ++ [l.display again]

/-- Other findings tell of no cycle. -/
lemma genuine_of_ne {x : Finding} (h : ∀ shown chain, x ≠ .cycle shown chain) :
    Genuine f l page x :=
  fun shown chain hx => absurd hx (h shown chain)

/-- What is omitted is no cycle. -/
lemma genuine_of_mem_omissions {file : Path} {omitted : List Extract.Omission} {x : Finding}
    (hx : x ∈ omissions l file omitted) : Genuine f l page x := by
  obtain ⟨o, -, rfl⟩ := List.mem_map.mp hx
  exact genuine_of_ne (by simp)

/-- What is declared and cannot be found is no cycle. -/
lemma genuine_of_mem_gaps {file : Path} {fields : Json.Fields} {x : Finding}
    (hx : x ∈ gaps f l file fields) : Genuine f l page x := by
  obtain ⟨d, -, hd⟩ := List.mem_filterMap.mp hx
  obtain ⟨s, -, hs⟩ := Option.bind_eq_some_iff.mp hd
  split at hs
  · cases hs
    exact genuine_of_ne (by simp)
  · cases hs

/-- The finding for a file that is met on the stack tells of the circle that it closes. -/
lemma genuine_cycleAt {t : Trail} {file : Path} {chain : List Path} (ht : t.Sound f l page)
    (hfit : Errand.Fits f l t (.visit file)) (hon : t.since? file = some chain) :
    Genuine f l page (cycleAt l t chain file) := by
  obtain ⟨user, hlast, huse⟩ := hfit
  obtain ⟨before, first, rest, hstack, hsame, rfl⟩ := Trail.since?_eq_some hon
  have hmem : ∀ p ∈ first :: rest, p ∈ t.stack := fun p hp => by
    rw [hstack]
    exact List.mem_append_right before hp
  intro shown shownChain hx
  rw [cycleAt, ht.headD_stack] at hx
  obtain ⟨rfl, rfl⟩ := Finding.cycle.inj hx
  refine ⟨rfl, first :: rest, file, ⟨⟨first, rfl, hsame⟩, ?_, ?_⟩, ?_, rfl⟩
  · have hapart := ht.stack_apart
    rw [hstack] at hapart
    exact (List.pairwise_append.mp hapart).2.1
  · have hchain := ht.chain
    rw [hstack] at hchain
    refine List.isChain_append.mpr
      ⟨(List.isChain_append.mp hchain).2.1, List.isChain_singleton _, ?_⟩
    intro p hp q hq
    have hlast' : (first :: rest).getLast? = some user := by
      rw [← hlast, hstack, List.getLast?_append_of_ne_nil _ (by simp)]
    obtain rfl : user = p := by simpa [hlast'] using hp
    obtain rfl : file = q := by simpa using hq
    exact huse
  · exact fun p hp => ht.stack_reached p (hmem p hp)

/-- An errand only adds findings, and those that tell of a cycle are genuine. -/
theorem Walks.genuine {e : Errand} {t t' : Trail} (h : Walks f l pageDir e t t')
    (hfit : e.Fits f l t) (ht : t.Sound f l page) :
    ∃ new, t'.findings = t.findings ++ new ∧ ∀ x ∈ new, Genuine f l page x := by
  induction h with
  | cycle hon =>
    refine ⟨_, rfl, fun x hx => ?_⟩
    rw [List.mem_singleton] at hx
    exact hx ▸ genuine_cycleAt ht hfit hon
  | seen => exact ⟨[], by simp, by simp⟩
  | unscanned =>
    refine ⟨_, rfl, fun x hx => ?_⟩
    rw [List.mem_singleton] at hx
    exact hx ▸ genuine_of_ne (by simp)
  | scanned hoff hnew hscan _ ih =>
    obtain ⟨new, hnewEq, hgenuine⟩ := ih (Errand.fits_entered hscan) (ht.entered hfit hoff hnew)
    refine ⟨_, by rw [Trail.pop_findings, hnewEq, Trail.push_findings, entered_findings,
      List.append_assoc], fun x hx => ?_⟩
    rcases List.mem_append.mp hx with hx | hx
    · rcases List.mem_append.mp hx with hx | hx
      · exact genuine_of_mem_omissions hx
      · exact genuine_of_mem_gaps hx
    · exact hgenuine x hx
  | nil => exact ⟨[], by simp, by simp⟩
  | package _ _ ih => exact ih (hfit.rest rfl) ht
  | missing _ _ _ ih =>
    obtain ⟨new, hnewEq, hgenuine⟩ := ih (hfit.rest rfl) (ht.add _)
    refine ⟨_, by rw [hnewEq, Trail.add_findings, List.append_assoc], fun x hx => ?_⟩
    rcases List.mem_append.mp hx with hx | hx
    · rw [List.mem_singleton] at hx
      exact hx ▸ genuine_of_ne (by simp [missingAt])
    · exact hgenuine x hx
  | step hrel hgoal hfirst _ ihfirst ihrest =>
    have hfit' := hfit.first hrel hgoal
    obtain ⟨new₁, h₁, hgenuine₁⟩ := ihfirst hfit' ht
    obtain ⟨new₂, h₂, hgenuine₂⟩ :=
      ihrest (hfit.rest hfirst.frame.1) (hfirst.sound hfit' ht)
    refine ⟨new₁ ++ new₂, by rw [h₂, h₁, List.append_assoc], fun x hx => ?_⟩
    rcases List.mem_append.mp hx with hx | hx
    · exact hgenuine₁ x hx
    · exact hgenuine₂ x hx

/-- The first file of a circle comes back to itself, and so it does in its other spelling. -/
lemma Circle.transGen {files : List Path} {again : Path} (h : Circle f l files again) :
    (∃ first ∈ files, Relation.TransGen (Uses f l) first again) ∧
      Relation.TransGen (Uses f l) again again := by
  obtain ⟨first, hhead, hsame⟩ := h.closed
  obtain ⟨rest, rfl⟩ : ∃ rest, files = first :: rest := List.head?_eq_some_iff.mp hhead
  obtain ⟨next, tail, hnext⟩ : ∃ next tail, rest ++ [again] = next :: tail :=
    List.exists_cons_of_ne_nil (by simp)
  have hchain := h.chain
  rw [List.cons_append, hnext, List.isChain_cons_cons] at hchain
  obtain ⟨hstep, htail⟩ := hchain
  have hreach : Reaches f l next again := by
    have hlast : (next :: tail).getLast? = some again := by rw [← hnext, List.getLast?_concat]
    exact List.relationReflTransGen_of_exists_isChain_cons tail htail
      ((List.getLast_eq_iff_getLast?_eq_some _).mpr hlast)
  have hround : Relation.TransGen (Uses f l) first again := .head' hstep hreach
  obtain ⟨user, -, huse⟩ := Relation.TransGen.tail'_iff.mp hround
  exact ⟨⟨first, by simp, hround⟩, .head' (hstep.congr hsame huse.found) hreach⟩

/-- A circle ends as it begins, unless one of its files can be met under two spellings: the platform
has a slash in its name, or the circle begins with the page and the page is given in a spelling of
its own. -/
lemma Circle.again_eq {first : Path} {rest : List Path} {again : Path}
    (h : Circle f l (first :: rest) again) (hreached : Reaches f l page first)
    (hplatform : ∀ name ∈ l.platform, '/' ∉ name.toList) (hpage : first = page → page.Tidy) :
    again = first := by
  obtain ⟨head, hhead, hsame⟩ := h.closed
  obtain rfl : first = head := Option.some.inj hhead
  obtain ⟨user, -, huse⟩ := Relation.TransGen.tail'_iff.mp h.transGen.2
  exact ((hreached.tidy hplatform hpage).eq_of_same (huse.tidy hplatform) hsame).symm

/-! ### No cycle goes unrecorded -/

/-- No infinite path of usages starts at a file. -/
def Grounded (f : Files) (l : Lookup) (p : Path) : Prop := Acc (fun q p => Uses f l p q) p

/-- A file is grounded when all that it uses is. -/
lemma grounded_of_uses {p : Path} (h : ∀ q, Uses f l p q → Grounded f l q) : Grounded f l p :=
  Acc.intro p h

/-- Being grounded does not depend on the spelling. -/
lemma Grounded.congr {p q : Path} (h : Grounded f l p) (hpq : p.same q = true)
    (hp : f.Found p) : Grounded f l q :=
  grounded_of_uses fun _ hr => h.inv (hr.congr (Path.same_symm hpq) hp)

/-- What is reached from a grounded file is grounded. -/
lemma Grounded.of_reaches {p q : Path} (h : Grounded f l p) (hpq : Reaches f l p q) :
    Grounded f l q := by
  induction hpq with
  | refl => exact h
  | tail _ hstep ih => exact ih.inv hstep

/-- A grounded file does not come back to itself. -/
lemma Grounded.not_transGen {p : Path} (h : Grounded f l p) :
    ¬ Relation.TransGen (Uses f l) p p := by
  induction h with
  | intro p _ ih =>
    intro hround
    obtain ⟨q, hstep, hback⟩ := Relation.TransGen.head'_iff.mp hround
    exact ih q hstep (.tail' hback hstep)

/-- Whether a finding tells of a cycle. -/
def isCycle : Finding → Bool
  | .cycle _ _ => true
  | _ => false

/-- How many cycles have been recorded. -/
def cyclesOf (t : Trail) : Nat := t.findings.countP isCycle

/-- Cycles are never forgotten. -/
lemma Walks.cyclesOf_le {e : Errand} {t t' : Trail} (h : Walks f l pageDir e t t') :
    cyclesOf t ≤ cyclesOf t' := by
  induction h with
  | scanned _ _ _ _ ih =>
    refine Nat.le_trans ?_ ih
    simp [cyclesOf]
  | missing _ _ _ ih =>
    refine Nat.le_trans ?_ ih
    simp [cyclesOf]
  | step _ _ _ _ ihfirst ihrest => exact Nat.le_trans ihfirst ihrest
  | package _ _ ih => exact ih
  | _ => simp [cyclesOf]

/-- Every file that was met and is no longer followed is grounded. -/
def Trail.Settled (f : Files) (l : Lookup) (t : Trail) : Prop :=
  ∀ p ∈ t.visited, Path.Among t.stack p ∨ Grounded f l p

/-- A trail stays settled when the components of a file are about to be followed. -/
lemma Trail.Settled.entered {t : Trail} (ht : t.Settled f l) (file : Path) (scan : Scan) :
    ((entered f l pageDir file scan t).push file).Settled f l := by
  intro p hp
  rw [Trail.push_stack, entered_stack, Path.among_append]
  rcases List.mem_cons.mp (by simpa using hp) with rfl | hp
  · exact Or.inl (Or.inr (Path.among_of_mem (by simp)))
  · exact (ht p hp).imp_left Or.inl

/-- A trail stays settled when a grounded file is met. -/
lemma Trail.Settled.visit {t : Trail} {file : Path} (ht : t.Settled f l)
    (hfile : Grounded f l file) : (t.visit file).Settled f l := by
  intro p hp
  rcases List.mem_cons.mp hp with rfl | hp
  · exact Or.inr hfile
  · exact ht p hp

/-- A trail stays settled when a grounded file is no longer followed. -/
lemma Trail.Settled.left {t : Trail} {stack : List Path} {file : Path} (ht : t.Settled f l)
    (hstack : t.stack = stack ++ [file]) (hfile : Grounded f l file) (hfound : f.Found file) :
    t.pop.Settled f l := by
  intro p hp
  rcases ht p hp with hon | hgrounded
  · rw [hstack, Path.among_append] at hon
    rcases hon with hon | ⟨q, hq, hsame⟩
    · exact Or.inl (by simpa [hstack] using hon)
    · obtain rfl : q = file := by simpa using hq
      exact Or.inr (hfile.congr hsame hfound)
  · exact Or.inr hgrounded

/-- An errand that records no cycle leaves its goals grounded, and all files that it is done
with. -/
theorem Walks.grounded {e : Errand} {t t' : Trail} (h : Walks f l pageDir e t t')
    (hpage : f.Found page) (hfit : e.Fits f l t) (ht : t.Sound f l page) (hset : t.Settled f l)
    (hquiet : cyclesOf t' = cyclesOf t) :
    t'.Settled f l ∧ ∀ p, e.Goal f l p → Grounded f l p := by
  induction h with
  | cycle => simp [cyclesOf, cycleAt, isCycle] at hquiet
  | @seen file t hoff hseen =>
    refine ⟨hset, ?_⟩
    rintro p rfl
    obtain ⟨q, hq, hsame⟩ := Trail.hasVisited_iff.mp hseen
    -- the file is not on the stack, in this spelling or in another
    rcases hset q hq with hon | hgrounded
    · exact absurd (hon.congr hsame) (Trail.since?_eq_none.mp hoff)
    · exact hgrounded.congr hsame ((ht.visited_reached q hq).found hpage)
  | @unscanned file t e _ _ hscan =>
    have hfile : Grounded f l file :=
      grounded_of_uses fun q hq => absurd hq (not_uses_of_error hscan)
    refine ⟨hset.visit hfile, ?_⟩
    rintro p rfl
    exact hfile
  | @scanned file t t' scan hoff hnew hscan hdown ih =>
    have hle := hdown.cyclesOf_le
    have hstart : cyclesOf t ≤ cyclesOf ((entered f l pageDir file scan t).push file) := by
      simp [cyclesOf]
    have hquiet' : cyclesOf t' = cyclesOf ((entered f l pageDir file scan t).push file) := by
      have hpop : cyclesOf t'.pop = cyclesOf t' := rfl
      omega
    obtain ⟨hset', hgoals⟩ := ih (Errand.fits_entered hscan) (ht.entered hfit hoff hnew)
      (hset.entered file scan) hquiet'
    have hfile : Grounded f l file := grounded_of_uses fun q hq => hgoals q (hq.goal hscan)
    have hstack : t'.stack = t.stack ++ [file] := by simpa using hdown.frame.1
    refine ⟨hset'.left hstack hfile (Files.found_of_scan hscan), ?_⟩
    rintro p rfl
    exact hfile
  | nil =>
    refine ⟨hset, ?_⟩
    rintro p ⟨u, hu, -⟩
    simp at hu
  | package hrel _ ih =>
    obtain ⟨hset', hgoals⟩ := ih (hfit.rest rfl) ht hset hquiet
    exact ⟨hset', fun p hp => hgoals p ((Errand.goal_package hrel).mp hp)⟩
  | missing _ hnone hrest ih =>
    obtain ⟨hset', hgoals⟩ := ih (hfit.rest rfl) (ht.add _) hset (by
      rw [hquiet]
      simp [cyclesOf, missingAt, isCycle])
    exact ⟨hset', fun p hp => hgoals p ((Errand.goal_missing hnone).mp hp)⟩
  | step hrel hsome hfirst hrest ihfirst ihrest =>
    have hfit' := hfit.first hrel hsome
    have hle := hfirst.cyclesOf_le
    have hle' := hrest.cyclesOf_le
    obtain ⟨hset', hgoal'⟩ := ihfirst hfit' ht hset (by omega)
    obtain ⟨hset'', hgoals⟩ :=
      ihrest (hfit.rest hfirst.frame.1) (hfirst.sound hfit' ht) hset' (by omega)
    refine ⟨hset'', fun p hp => ?_⟩
    rcases (Errand.goal_step hrel hsome).mp hp with rfl | hp
    · exact hgoal' _ rfl
    · exact hgoals p hp

/-- If the search for a page records no cycle, the page is grounded. -/
lemma Walks.grounded_page {t : Trail} {scan : Scan} {before : List Finding}
    (hscan : f.scan page = .ok scan)
    (h : Walks f l pageDir (.usages page scan.usages) (startTrail l page scan before) t)
    (hquiet : cyclesOf t = cyclesOf (startTrail l page scan before)) : Grounded f l page := by
  have hpage : f.Found page := Files.found_of_scan hscan
  have hset : (startTrail l page scan before).Settled f l := by
    intro p hp
    simp [startTrail] at hp
  obtain ⟨-, hgoals⟩ := h.grounded hpage (fits_startTrail hscan before) (sound_startTrail ..) hset
    hquiet
  exact grounded_of_uses fun q hq => hgoals q (hq.goal hscan)

/-! ### Cycles of a page -/

/-- What is omitted is no cycle. -/
lemma countP_isCycle_omissions (l : Lookup) (file : Path) (omitted : List Extract.Omission) :
    (omissions l file omitted).countP isCycle = 0 := by
  rw [List.countP_eq_zero]
  intro x hx
  obtain ⟨o, -, rfl⟩ := List.mem_map.mp hx
  simp [isCycle]

/-- A cycle is recorded when there is a finding that tells of one. -/
lemma countP_isCycle_pos {xs : List Finding} :
    0 < xs.countP isCycle ↔ ∃ shown chain, Finding.cycle shown chain ∈ xs := by
  rw [List.countP_pos_iff]
  constructor
  · rintro ⟨x, hx, hcycle⟩
    cases x with
    | cycle shown chain => exact ⟨shown, chain, hx⟩
    | _ => simp [isCycle] at hcycle
  · rintro ⟨shown, chain, hx⟩
    exact ⟨_, hx, rfl⟩

/-- **Cycles are recorded exactly when there are some.**  Where all files that a page uses are
known, and at every depth above their number, the job of a page that can be scanned adds findings
to those before.  Among them is one that tells of a cycle exactly when a file that can be reached
from the page reaches itself; and each of those shows the page and files `v₀, …, vₖ, v₀` that can
be reached from it, each of which uses the next, with `v₀, …, vₖ` pairwise different.

The last of them is `v₀` in the spelling in which it was met again.  If the platform has no slash
in its name, that is the spelling at the front, where the page itself, should the circle begin with
it, is to be given with a tidy path. -/
theorem cycle_recorded_iff_reaches_itself (f : Files) (l : Lookup) (page : Path) (scan : Scan)
    (known : List Path) (hknown : Covers f l page known) (hscan : f.scan page = .ok scan)
    (before : List Finding) (depth : Nat) (hdepth : known.length < depth) :
    ∃ config recorded, (Resolve.page l depth page before).ask f = (config, before ++ recorded) ∧
      ((∃ shown chain, Finding.cycle shown chain ∈ recorded) ↔
        ∃ p, Reaches f l page p ∧ Relation.TransGen (Uses f l) p p) ∧
      ∀ shown chain, Finding.cycle shown chain ∈ recorded → shown = l.display page ∧
        ∃ first rest again, first.same again = true ∧ (first :: rest).Pairwise Apart ∧
          (first :: rest ++ [again]).IsChain (Uses f l) ∧
          (∀ p ∈ first :: rest, Reaches f l page p) ∧
          chain = (first :: rest ++ [again]).map l.display ∧
          ((∀ name ∈ l.platform, '/' ∉ name.toList) → (first = page → page.Tidy) →
            again = first) := by
  obtain ⟨t, hwalks, hjob⟩ := walks_page hscan hknown before
  obtain ⟨new, hfindings, hgenuine⟩ :=
    hwalks.genuine (fits_startTrail hscan before) (sound_startTrail ..)
  have hstart : (startTrail l page scan before).findings
      = before ++ omissions l page scan.omitted := rfl
  have hrecorded : t.findings = before ++ (omissions l page scan.omitted ++ new) := by
    rw [hfindings, hstart, List.append_assoc]
  have hall : ∀ x ∈ omissions l page scan.omitted ++ new, Genuine f l page x := by
    intro x hx
    rcases List.mem_append.mp hx with hx | hx
    · exact genuine_of_mem_omissions hx
    · exact hgenuine x hx
  refine ⟨_, omissions l page scan.omitted ++ new, by rw [(hjob depth hdepth).1, hrecorded], ?_, ?_⟩
  · constructor
    · rintro ⟨shown, chain, hx⟩
      obtain ⟨-, files, again, hcircle, hreached, -⟩ := hall _ hx shown chain rfl
      obtain ⟨⟨first, hfirst, hround⟩, hself⟩ := hcircle.transGen
      exact ⟨again, (hreached first hfirst).trans hround.to_reflTransGen, hself⟩
    · rintro ⟨p, hp, hself⟩
      by_contra hnone
      rw [← countP_isCycle_pos, Nat.pos_iff_ne_zero, not_not] at hnone
      refine ((hwalks.grounded_page hscan ?_).of_reaches hp).not_transGen hself
      rw [List.countP_append, countP_isCycle_omissions] at hnone
      simp only [cyclesOf, hfindings, List.countP_append]
      omega
  · intro shown chain hx
    obtain ⟨hshown, files, again, hcircle, hreached, hchain⟩ := hall _ hx shown chain rfl
    obtain ⟨first, hhead, hsame⟩ := hcircle.closed
    obtain ⟨rest, rfl⟩ : ∃ rest, files = first :: rest := List.head?_eq_some_iff.mp hhead
    refine ⟨hshown, first, rest, again, hsame, hcircle.apart, hcircle.chain, hreached, ?_, ?_⟩
    · rw [hchain, List.map_append, List.map_singleton]
    · exact hcircle.again_eq (hreached first List.mem_cons_self)

/-- From a file of the ring, the ring is recorded as a cycle. -/
theorem cycle_recorded_iff_reaches_itself_ring :
    ((Resolve.page ⟨none, ⟨"/"⟩⟩ 3 ⟨"/a.js"⟩ []).ask ring).2
        = [.cycle "a.js" ["a.js", "b.js", "a.js"]] ∧
      ∃ p, Reaches ring ⟨none, ⟨"/"⟩⟩ ⟨"/a.js"⟩ p ∧
        Relation.TransGen (Uses ring ⟨none, ⟨"/"⟩⟩) p p := by
  obtain ⟨scan, hscan⟩ := exists_scan_ring
  obtain ⟨config, recorded, hjob, hiff, -⟩ := cycle_recorded_iff_reaches_itself ring
    ⟨none, ⟨"/"⟩⟩ ⟨"/a.js"⟩ scan [⟨"/a.js"⟩, ⟨"/b.js"⟩]
    (covers_of_isFile fun p hp => among_of_isFile_ring hp) hscan [] 3 (by decide)
  have hring : ((Resolve.page ⟨none, ⟨"/"⟩⟩ 3 ⟨"/a.js"⟩ []).ask ring).2
      = [.cycle "a.js" ["a.js", "b.js", "a.js"]] := by decide +kernel
  have hrecorded : recorded = [.cycle "a.js" ["a.js", "b.js", "a.js"]] := by
    rw [← hring, hjob, List.nil_append]
  refine ⟨hring, hiff.mp ⟨"a.js", ["a.js", "b.js", "a.js"], ?_⟩⟩
  rw [hrecorded]
  exact List.mem_cons_self

/-- What shows a list of files that comes back to its first shows the same at both ends. -/
lemma head?_eq_getLast?_of_shown {shown : List String} {first : Path} {rest : List Path}
    (h : shown = (first :: rest ++ [first]).map l.display) : shown.head? = shown.getLast? := by
  rw [h, List.cons_append, List.map_cons, List.head?_cons, ← List.map_cons, ← List.cons_append,
    List.map_append, List.map_singleton, List.getLast?_concat]

/-- A page, and a file that uses itself and is below a directory named like an ending. -/
def respelled : Files :=
  .ofTexts [
    (⟨"/p.js"⟩, "import A from './a'\n<A/>"),
    (⟨"/a.x/y.js"⟩, "import Y from './y'\n<Y/>")]

/-- A page that uses itself. -/
def selfUsing : Files :=
  .ofTexts [(⟨"/a/p.js"⟩, "import P from './p'\n<P/>")]

/-- With a platform that has two slashes in its name, the page comes to that file by one spelling
and the file to itself by another.  So the circle is shown with two ends, which is not how any files
`v₀, …, vₖ, v₀` are shown.  Without a platform, the same happens to a page that uses itself and is
given with a step that stays where it is. -/
theorem cycle_shows_spelling :
    (respelled.scan ⟨"/p.js"⟩ = .ok ⟨.object [], [], [⟨"A", "./a"⟩]⟩ ∧
      ((Resolve.page ⟨some "x//y", ⟨"/"⟩⟩ 3 ⟨"/p.js"⟩ []).ask respelled).2
        = [.cycle "p.js" ["a.x//y.js", "a.x/y.js"]] ∧
      ∀ first rest, ["a.x//y.js", "a.x/y.js"]
        ≠ (first :: rest ++ [first]).map (Lookup.display ⟨some "x//y", ⟨"/"⟩⟩)) ∧
    selfUsing.scan ⟨"/a/./p.js"⟩ = .ok ⟨.object [], [], [⟨"P", "./p"⟩]⟩ ∧
      ((Resolve.page ⟨none, ⟨"/"⟩⟩ 2 ⟨"/a/./p.js"⟩ []).ask selfUsing).2
        = [.cycle "a/./p.js" ["a/./p.js", "a/p.js"]] ∧
      ∀ first rest, ["a/./p.js", "a/p.js"]
        ≠ (first :: rest ++ [first]).map (Lookup.display ⟨none, ⟨"/"⟩⟩) := by
  refine ⟨⟨scan_eq_of_usages (by decide +kernel), by decide +kernel, fun first rest hshown => ?_⟩,
    scan_eq_of_usages (by decide +kernel), by decide +kernel, fun first rest hshown => ?_⟩
  · exact absurd (head?_eq_getLast?_of_shown hshown) (by decide)
  · exact absurd (head?_eq_getLast?_of_shown hshown) (by decide)

end PageConfig.Resolve
