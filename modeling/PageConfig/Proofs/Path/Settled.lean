import PageConfig.Proofs.Path.Tidy

/-!
# Normal forms

Normalising a path walks through its steps and keeps what is left on a stack,
the last step first.  Whatever the walk goes through, its stack has one of two
shapes: names above the root, or names above steps up (`NormalWalk`).  A stack
of such a shape is what a walk through it in order leaves behind, and that is
why a normal form is its own normal form, and why it does not matter whether a
walk goes on from a path or from the normal form of that path.
-/

namespace PageConfig.Path

variable {p q : Path} {c : Component} {done : List Component}

/-- What a walk leaves on its stack, the last step first. -/
inductive NormalWalk : List Component → Prop where
  | nil : NormalWalk []
  | root : NormalWalk [.root]
  | up (n : Nat) : NormalWalk (List.replicate (n + 1) .up)
  | name {done : List Component} (s : String) (h : NormalWalk done) : NormalWalk (.name s :: done)

namespace NormalWalk

/-- One more step that can stand anywhere keeps the shape. -/
lemma walk (h : NormalWalk done) (hc : c.IsStep) : NormalWalk (Path.walk done c) := by
  cases c with
  | root => exact absurd hc.segment (segment?_ne_root _)
  | here => exact absurd hc.segment (segment?_ne_here _)
  | name s => exact .name s h
  | up =>
    cases h with
    | nil => exact .up 0
    | root => exact .root
    | up n => exact .up (n + 1)
    | name s h => exact h

/-- So do more steps. -/
lemma foldl_walk (h : NormalWalk done) {cs : List Component} (hcs : ∀ c ∈ cs, c.IsStep) :
    NormalWalk (cs.foldl Path.walk done) := by
  induction cs generalizing done with
  | nil => exact h
  | cons c cs ih =>
    rw [List.foldl_cons]
    exact ih (h.walk (hcs c List.mem_cons_self)) fun d hd => hcs d (List.mem_cons_of_mem c hd)

/-- What is under the last step is of the same shape. -/
lemma tail (h : NormalWalk (c :: done)) : NormalWalk done := by
  generalize hstack : c :: done = stack at h
  cases h with
  | nil => cases hstack
  | root =>
    obtain rfl : done = [] := (List.cons.inj hstack).2
    exact .nil
  | up n =>
    rw [List.replicate_succ, List.cons.injEq] at hstack
    rw [hstack.2]
    cases n with
    | zero => exact .nil
    | succ n => exact .up n
  | name s h =>
    rw [List.cons.injEq] at hstack
    rwa [hstack.2]

/-- So is what is under the last steps. -/
lemma of_append {last : List Component} (h : NormalWalk (last ++ done)) : NormalWalk done := by
  induction last with
  | nil => exact h
  | cons c last ih => exact ih h.tail

/-- Names can be put on any stack. -/
lemma names_append (h : NormalWalk done) (names : List String) :
    NormalWalk (names.map .name ++ done) := by
  induction names with
  | nil => exact h
  | cons s names ih => exact .name s ih

/-- No opening dot is left. -/
lemma here_not_mem (h : NormalWalk done) : Component.here ∉ done := by
  induction h with
  | nil => simp
  | root => simp
  | up n => simp
  | name s _ ih => simp [ih]

/-- A walk through what is left, from its start, leaves it again. -/
lemma foldl_reverse (h : NormalWalk done) : done.reverse.foldl Path.walk [] = done := by
  induction h with
  | nil => rfl
  | root => rfl
  | up n =>
    rw [List.reverse_replicate]
    induction n with
    | zero => rfl
    | succ n ih =>
      have hlast : List.replicate (n + 2) Component.up = List.replicate (n + 1) .up ++ [.up] :=
        List.replicate_succ'
      conv_lhs => rw [hlast, List.foldl_append, ih]
      rfl
  | name s _ ih =>
    rw [List.reverse_cons, List.foldl_append, ih]
    rfl

/-- The two shapes, in the order of the path. -/
lemma shape (h : NormalWalk done) :
    ∃ names : List String, done.reverse = .root :: names.map .name ∨
      ∃ n, done.reverse = List.replicate n .up ++ names.map .name := by
  induction h with
  | nil => exact ⟨[], Or.inr ⟨0, rfl⟩⟩
  | root => exact ⟨[], Or.inl rfl⟩
  | up n => exact ⟨[], Or.inr ⟨n + 1, by simp⟩⟩
  | name s _ ih =>
    obtain ⟨names, hroot | ⟨n, hup⟩⟩ := ih
    · exact ⟨names ++ [s], Or.inl (by simp [hroot])⟩
    · exact ⟨names ++ [s], Or.inr ⟨n, by simp [hup]⟩⟩

end NormalWalk

/-! ### Normal forms of paths -/

/-- The steps of the normal form of a path. -/
def settled (p : Path) : List Component := settle p.steps

/-- Settling the components of a path settles its steps. -/
lemma settle_components (p : Path) : settle p.components = p.settled := (settle_filter _).symm

/-- What a walk through the steps of a path leaves. -/
lemma normalWalk_settled (p : Path) : NormalWalk p.settled.reverse := by
  have hsteps := spelled_steps p
  rw [settled, settle, List.reverse_reverse]
  cases hp : p.steps with
  | nil => exact .nil
  | cons c cs =>
    rw [hp] at hsteps
    rw [List.foldl_cons]
    refine NormalWalk.foldl_walk ?_ hsteps.tail
    rcases hsteps.head c rfl with hc | rfl | rfl
    · exact NormalWalk.nil.walk hc
    · exact .root
    · exact .nil

/-- A normal form is settled. -/
lemma settle_of_normalWalk {cs : List Component} (h : NormalWalk cs.reverse) : settle cs = cs := by
  have hfold := h.foldl_reverse
  rw [List.reverse_reverse] at hfold
  rw [settle, hfold, List.reverse_reverse]

/-- A walk goes on from a path as from its normal form. -/
lemma settle_append (p : Path) (cs : List Component) :
    settle (p.steps ++ cs) = settle (p.settled ++ cs) := by
  have hfold : p.settled.foldl walk [] = p.steps.foldl walk [] := by
    have hreverse := (normalWalk_settled p).foldl_reverse
    rw [List.reverse_reverse] at hreverse
    rw [hreverse, settled, settle, List.reverse_reverse]
  rw [settle, settle, List.foldl_append, List.foldl_append, hfold]

/-- The components of a normal form can be put together. -/
lemma spelled_settled (p : Path) : Spelled p.settled := (spelled_steps p).settle

/-- The steps of a normal form. -/
lemma steps_normalize (p : Path) : p.normalize.steps = p.settled := by
  have hsettled := settle_components p
  rw [normalize]
  split
  · rename_i hnil
    rw [← hsettled, hnil]
    rfl
  · rw [hsettled, steps, (spelled_settled p).components_ofComponents, List.filter_eq_self]
    intro c hc
    have hne : c ≠ .here := by
      rintro rfl
      exact (normalWalk_settled p).here_not_mem (List.mem_reverse.mpr hc)
    simpa using hne

/-- Paths have one normal form when their steps settle to the same. -/
lemma normalize_eq_of_settled (h : p.settled = q.settled) : p.normalize = q.normalize := by
  rw [normalize, normalize, settle_components, settle_components, h]

/-- A normal form is its own normal form. -/
theorem normalize_normalize (p : Path) : p.normalize.normalize = p.normalize := by
  apply normalize_eq_of_settled
  rw [settled, steps_normalize, settle_of_normalWalk (normalWalk_settled p)]

end PageConfig.Path
