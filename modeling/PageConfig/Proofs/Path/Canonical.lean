import Mathlib.Algebra.Order.BigOperators.Group.List
import Mathlib.Algebra.Order.Group.Nat
import PageConfig.Proofs.Disk.Answers
import PageConfig.Proofs.Path.Reference

/-!
# Normal forms are canonical

A path says where to go from a directory: a name leads one down, `..` leads one
up and stays at the root, a dot stays, and a slash in front starts over at the
root.  `Path.reach` is the directory that is reached, from a base that a path
does not know.

Normalising keeps what is reached from every base (`reach_normalize`), and it
keeps nothing else: paths that reach the same from every base have one normal
form (`settled_eq_of_reach`).  To tell two normal forms apart one base is
enough, if it is deeper than both go up and its names are in neither of them.
-/

namespace PageConfig.Path

variable {p q : Path} {c : Component} {base : Place}

open PageConfig.Disk (step)

/-- The directory that a path leads to from a base, whatever stands there. -/
def reach (base : Place) (p : Path) : Place := p.components.foldl step base

/-! ### Normalising keeps what is reached -/

/-- The steps of a path lead where the path leads. -/
lemma reach_eq (base : Place) (p : Path) : p.reach base = p.steps.foldl step base := by
  have hfilter : ∀ (cs : List Component) (place : Place),
      (cs.filter (· ≠ .here)).foldl step place = cs.foldl step place := by
    intro cs
    induction cs with
    | nil => exact fun _ => rfl
    | cons c cs ih =>
      intro place
      by_cases hc : c = .here
      · rw [List.filter_cons_of_neg (by simp [hc]), ih, List.foldl_cons, hc, step]
      · rw [List.filter_cons_of_pos (by simp [hc]), List.foldl_cons, List.foldl_cons, ih]
  rw [reach, steps, hfilter]

/-- One more component on a walk leads one step further than what was left before. -/
lemma foldl_step_walk (done : List Component) (c : Component) (base : Place) :
    (walk done c).reverse.foldl step base = step (done.reverse.foldl step base) c := by
  have hpush : ∀ (d : Component) (rest : List Component),
      (d :: rest).reverse.foldl step base = step (rest.reverse.foldl step base) d := by
    intro d rest
    rw [List.reverse_cons, List.foldl_append]
    rfl
  cases c with
  | root => exact hpush .root done
  | here => rfl
  | name s => exact hpush (.name s) done
  | up =>
    cases done with
    | nil => exact hpush .up []
    | cons d rest =>
      cases d with
      | here => exact hpush .up _
      | up => exact hpush .up _
      | root =>
        rw [walk, hpush]
        rfl
      | name s =>
        rw [walk, hpush]
        exact List.dropLast_concat.symm

/-- What components settle to leads where they lead. -/
lemma foldl_step_settle (cs : List Component) (base : Place) :
    (settle cs).foldl step base = cs.foldl step base := by
  have hfold : ∀ done : List Component, (cs.foldl walk done).reverse.foldl step base
      = cs.foldl step (done.reverse.foldl step base) := by
    induction cs with
    | nil => exact fun _ => rfl
    | cons c cs ih =>
      intro done
      rw [List.foldl_cons, ih, foldl_step_walk, List.foldl_cons]
  rw [settle, hfold]
  rfl

/-- What is reached is read off the normal form. -/
lemma reach_eq_settled (base : Place) (p : Path) : p.reach base = p.settled.foldl step base := by
  rw [reach_eq, settled, foldl_step_settle]

/-- A path and its normal form reach the same from every base. -/
lemma reach_normalize (base : Place) (p : Path) : p.normalize.reach base = p.reach base := by
  rw [reach_eq, steps_normalize, reach_eq_settled]

/-! ### Normal forms that reach the same are equal -/

/-- Names lead down. -/
lemma foldl_step_names (names : List String) (place : Place) :
    (names.map Component.name).foldl step place = place ++ names := by
  induction names generalizing place with
  | nil => exact (List.append_nil place).symm
  | cons s names ih =>
    rw [List.map_cons, List.foldl_cons, ih, step, List.append_assoc]
    rfl

/-- From a directory whose names are all the same, steps up take that many of them. -/
lemma foldl_step_up (n depth : Nat) (x : String) :
    (List.replicate n Component.up).foldl step (List.replicate depth x)
      = List.replicate (depth - n) x := by
  induction n generalizing depth with
  | zero => rfl
  | succ n ih =>
    have hstep : step (List.replicate depth x) .up = List.replicate (depth - 1) x := by
      rw [step, List.dropLast_replicate]
    have hdepth : depth - 1 - n = depth - (n + 1) := by omega
    rw [List.replicate_succ, List.foldl_cons, hstep, ih, hdepth]

/-- The steps of a normal form: from the root, or from so many steps up, and names. -/
def normalSteps (start : Option Nat) (names : List String) : List Component :=
  match start with
  | none => .root :: names.map .name
  | some n => List.replicate n .up ++ names.map .name

/-- Every normal form is of this kind. -/
lemma exists_settled_eq (p : Path) : ∃ start names, p.settled = normalSteps start names := by
  obtain ⟨names, hroot | ⟨n, hup⟩⟩ := (normalWalk_settled p).shape
  · rw [List.reverse_reverse] at hroot
    exact ⟨none, names, hroot⟩
  · rw [List.reverse_reverse] at hup
    exact ⟨some n, names, hup⟩

/-- How much is left of a directory where a normal form starts. -/
def depthLeft (depth : Nat) (start : Option Nat) : Nat := (start.map (depth - ·)).getD 0

@[simp] lemma depthLeft_none (depth : Nat) : depthLeft depth none = 0 := rfl

@[simp] lemma depthLeft_some (depth n : Nat) : depthLeft depth (some n) = depth - n := rfl

lemma foldl_step_normalSteps (start : Option Nat) (names : List String) (depth : Nat) (x : String) :
    (normalSteps start names).foldl step (List.replicate depth x)
      = List.replicate (depthLeft depth start) x ++ names := by
  cases start with
  | none => exact foldl_step_names names []
  | some n =>
    rw [normalSteps, List.foldl_append, foldl_step_up, foldl_step_names]
    rfl

/-- Starts that leave the same of a directory deeper than both are equal. -/
lemma depthLeft_inj {depth : Nat} {start start' : Option Nat} (h : ∀ n ∈ start, n < depth)
    (h' : ∀ n ∈ start', n < depth) (heq : depthLeft depth start = depthLeft depth start') :
    start = start' := by
  cases start with
  | none =>
    cases start' with
    | none => rfl
    | some m =>
      have hm : m < depth := h' m rfl
      rw [depthLeft_none, depthLeft_some] at heq
      omega
  | some n =>
    have hn : n < depth := h n rfl
    cases start' with
    | none =>
      rw [depthLeft_none, depthLeft_some] at heq
      omega
    | some m =>
      have hm : m < depth := h' m rfl
      rw [depthLeft_some, depthLeft_some] at heq
      have hnm : n = m := by omega
      rw [hnm]

/-- A run of a name and what follows it without that name can be told apart. -/
lemma replicate_append_inj {x : String} {names names' : List String} (hx : x ∉ names)
    (hx' : x ∉ names') {n m : Nat}
    (h : List.replicate n x ++ names = List.replicate m x ++ names') : n = m ∧ names = names' := by
  have hcount : ∀ (k : Nat) (rest : List String), x ∉ rest →
      (List.replicate k x ++ rest).count x = k := by
    intro k rest hrest
    rw [List.count_append, List.count_replicate_self, List.count_eq_zero.mpr hrest, Nat.add_zero]
  have hnm : n = m := by
    rw [← hcount n names hx, h, hcount m names' hx']
  subst hnm
  exact ⟨rfl, List.append_cancel_left h⟩

/-- There is always another name. -/
lemma exists_fresh (names : List String) : ∃ x, IsName x ∧ x ∉ names := by
  set x := String.ofList (List.replicate ((names.map String.length).sum + 3) 'x') with hx
  have hlength : x.length = (names.map String.length).sum + 3 := by
    rw [hx, String.length_ofList, List.length_replicate]
  refine ⟨x, isName_of_length ?_ ?_, ?_⟩
  · rw [hx, String.toList_ofList]
    intro hslash
    exact absurd (List.eq_of_mem_replicate hslash) (by decide)
  · rw [String.length_toList, hlength]
    omega
  · intro hmem
    have hle : x.length ≤ (names.map String.length).sum :=
      List.le_sum_of_mem (List.mem_map_of_mem hmem)
    omega

/-- Paths that reach the same from every base have the same normal form. -/
lemma settled_eq_of_reach (h : ∀ base : Place, base.Named → p.reach base = q.reach base) :
    p.settled = q.settled := by
  obtain ⟨start, names, hp⟩ := exists_settled_eq p
  obtain ⟨start', names', hq⟩ := exists_settled_eq q
  -- a base deeper than both go up, of a name that neither has
  obtain ⟨x, hx, hfresh⟩ := exists_fresh (names ++ names')
  obtain ⟨hfirst, hsecond⟩ : x ∉ names ∧ x ∉ names' := by simpa using hfresh
  set depth := start.getD 0 + start'.getD 0 + 1 with hdepth
  have hnamed : Place.Named (List.replicate depth x) := by
    intro n hn
    rw [List.eq_of_mem_replicate hn]
    exact hx
  have hreach := h _ hnamed
  rw [reach_eq_settled, reach_eq_settled, hp, hq, foldl_step_normalSteps,
    foldl_step_normalSteps] at hreach
  obtain ⟨hleft, rfl⟩ := replicate_append_inj hfirst hsecond hreach
  have hstart : start = start' := by
    refine depthLeft_inj ?_ ?_ hleft
    · rintro n rfl
      rw [hdepth, Option.getD_some]
      omega
    · rintro n rfl
      rw [hdepth, Option.getD_some]
      omega
  rw [hp, hq, hstart]

/-! ### Components and joins -/

/-- The components of a normal form are its steps, unless it is a single dot. -/
lemma components_normalize (p : Path) :
    p.normalize = ⟨"."⟩ ∨ p.normalize.components = p.settled := by
  rw [normalize, settle_components]
  split
  · exact Or.inl rfl
  · exact Or.inr (spelled_settled p).components_ofComponents

/-- Steps up come first in a normal form, and there are none if it starts at the root. -/
lemma exists_up_components_normalize (p : Path) :
    ∃ n rest, p.normalize.components = List.replicate n .up ++ rest ∧ Component.up ∉ rest ∧
      (p.normalize.isAbsolute = true → n = 0) := by
  rcases components_normalize p with hdot | hcomponents
  · rw [hdot]
    exact ⟨0, [.here], by decide, by decide, fun _ => rfl⟩
  · obtain ⟨start, names, hsettled⟩ := exists_settled_eq p
    rw [isAbsolute, hcomponents, hsettled]
    cases start with
    | none => exact ⟨0, .root :: names.map .name, rfl, by simp, fun _ => rfl⟩
    | some n =>
      refine ⟨n, names.map .name, rfl, by simp, fun habsolute => ?_⟩
      cases n with
      | zero => rfl
      | succ n => simp [normalSteps, List.replicate_succ] at habsolute

/-- Only a single dot has a dot left. -/
lemma eq_dot_of_here_mem (h : Component.here ∈ p.normalize.components) : p.normalize = ⟨"."⟩ := by
  rcases components_normalize p with hdot | hcomponents
  · exact hdot
  · rw [hcomponents] at h
    exact absurd (List.mem_reverse.mpr h) (normalWalk_settled p).here_not_mem

/-- Seen from a directory or from its normal form, a path has the same normal form. -/
lemma normalize_join_normalize (p q : Path) :
    (p.join q).normalize = (p.normalize.join q).normalize := by
  by_cases hq : q.text.toList.head? = some '/'
  · rw [join_of_head? hq, join_of_head? hq]
  · apply normalize_eq_of_settled
    rw [settled, settled, steps_join hq, steps_join hq, settle_append, steps_normalize]

/-- **Normal forms are canonical.**  A path and its normal form reach the same directory from every
base, and two paths reach the same from every base if and only if they have one normal form.

A normal form has no dot, unless it is a single one; it goes up only where it starts, and not at all
if it starts at the root; it is its own normal form; and a path can be put in normal form before
another one is joined to it. -/
theorem normalize_canonical (p q : Path) :
    (∀ base : Place, p.normalize.reach base = p.reach base) ∧
      ((∀ base : Place, base.Named → p.reach base = q.reach base) ↔ p.normalize = q.normalize) ∧
      (Component.here ∈ p.normalize.components → p.normalize = ⟨"."⟩) ∧
      (∃ n rest, p.normalize.components = List.replicate n .up ++ rest ∧ Component.up ∉ rest ∧
        (p.normalize.isAbsolute = true → n = 0)) ∧
      p.normalize.normalize = p.normalize ∧
      (p.join q).normalize = (p.normalize.join q).normalize := by
  refine ⟨fun base => reach_normalize base p, ⟨?_, ?_⟩, eq_dot_of_here_mem,
    exists_up_components_normalize p, normalize_normalize p, normalize_join_normalize p q⟩
  · intro hreach
    exact normalize_eq_of_settled (settled_eq_of_reach hreach)
  · intro hnormal base _
    rw [← reach_normalize base p, hnormal, reach_normalize]

end PageConfig.Path
