import PageConfig.Proofs.Path.Names

/-!
# Tidy paths

A path that is put together from components, one slash between any two, is
*tidy*.  Its components are those that it was put together from
(`components_ofComponents`), so that two tidy paths are the same only if they
are equal (`Tidy.eq_of_same`).

Every normal form is tidy, whether it starts at the root or not
(`tidy_normalize`), and a tidy path stays tidy when a name is joined to it or an
ending without a slash is put behind it.
-/

namespace PageConfig.Path

variable {p q : Path} {c : Component} {cs : List Component}

/-! ### Components that follow others -/

/-- A component that can stand anywhere in a path: it is written as one segment, and that segment
stands for it. -/
structure Component.IsStep (c : Component) : Prop where
  not_slash : '/' ∉ c.text.toList
  segment : segment? c.text.toList = some c

lemma IsName.isStep {s : String} (h : IsName s) : (Component.name s).IsStep :=
  ⟨h.not_slash, h.segment⟩

lemma isStep_up : Component.up.IsStep := ⟨by decide, rfl⟩

/-- What a segment stands for can stand anywhere. -/
lemma isStep_of_segment? {w : List Char} (hslash : '/' ∉ w) (h : segment? w = some c) :
    c.IsStep := by
  cases c with
  | root => exact absurd h (segment?_ne_root w)
  | here => exact absurd h (segment?_ne_here w)
  | up => exact isStep_up
  | name s => exact (isName_of_segment? hslash h).isStep

namespace Component.IsStep

/-- A component that can stand anywhere is not written as nothing. -/
lemma ne_nil (h : c.IsStep) : c.text.toList ≠ [] := by
  intro hnil
  have hseg := h.segment
  rw [hnil] at hseg
  cases hseg

lemma head? (h : c.IsStep) : (⟨c.text⟩ : Path).text.toList.head? ≠ some '/' := by
  intro hhead
  exact h.not_slash (List.mem_of_mem_head? hhead)

/-- On its own it is one step. -/
lemma steps (h : c.IsStep) : (⟨c.text⟩ : Path).steps = [c] := by
  rw [steps_eq, stepsOf_of_head? h.head?, cut_eq_singleton h.not_slash]
  simp [h.segment]

end Component.IsStep

/-! ### Components of a joined path -/

/-- The text of a path seen from another one: a slash goes between, unless one is there or nothing
comes before it. -/
lemma toList_join (hq : q.text.toList.head? ≠ some '/') :
    (p.join q).text.toList
      = p.text.toList
        ++ (if p.text.toList = [] ∨ p.text.toList.getLast? = some '/' then [] else ['/'])
        ++ q.text.toList := by
  unfold join
  split
  · rename_i h
    simp [h] at hq
  · by_cases hp : p.text.toList = [] ∨ p.text.toList.getLast? = some '/'
    · have hcond : (p.text.isEmpty || p.text.toList.getLast? == some '/') = true := by
        simpa [String.isEmpty_iff] using hp
      rw [if_pos hcond, if_pos hp, String.toList_append, List.append_nil]
    · have hcond : ¬ (p.text.isEmpty || p.text.toList.getLast? == some '/') = true := by
        simpa [String.isEmpty_iff] using hp
      rw [if_neg hcond, if_neg hp, String.toList_append, String.toList_append]
      rfl

/-- The components of a path are its steps, behind a dot if one opens it. -/
lemma components_eq (p : Path) :
    p.components
      = (if (cut p.text.toList).head? = some ['.'] then [.here] else []) ++ p.steps := by
  rw [steps_eq, components, layout, stepsOf]
  cases p.text.toList with
  | nil => simp [Layout.components, Layout.opening, cut, segment?]
  | cons c cs =>
    by_cases hc : c = '/'
    · simp [hc, Layout.components, Layout.opening, cut, segment?, List.filterMap_cons]
    · simp only [hc, if_false, List.head?_cons, Option.some.injEq, List.nil_append]
      by_cases hdot : (cut (c :: cs)).head? = some ['.']
      · obtain ⟨rest, hrest⟩ := List.head?_eq_some_iff.mp hdot
        simp [Layout.components, Layout.opening, hrest, segment?]
      · have hopening : (⟨false, cut (c :: cs)⟩ : Layout).opening = (none, cut (c :: cs)) := by
          unfold Layout.opening
          split
          · rename_i habs
            cases habs
          · split
            · rename_i rest hrest
              have hcut : cut (c :: cs) = ['.'] :: rest := hrest
              exact absurd (by rw [hcut]; rfl) hdot
            · rfl
        simp [Layout.components, hopening, hdot]

/-- Joining does not change what opens a path that is not empty. -/
lemma head?_cut_join (hq : q.text.toList.head? ≠ some '/') (hp : p.text.toList ≠ []) :
    (cut (p.join q).text.toList).head? = (cut p.text.toList).head? := by
  have hhead : ∀ as bs : List Char, (cut (as ++ '/' :: bs)).head? = (cut as).head? := by
    intro as bs
    rw [cut_append_slash, List.head?_append_of_ne_nil _ (cut_ne_nil as)]
  rw [toList_join hq]
  by_cases hlast : p.text.toList.getLast? = some '/'
  · obtain ⟨as, has⟩ := List.getLast?_eq_some_iff.mp hlast
    rw [if_pos (Or.inr hlast), List.append_nil, has, List.append_assoc, List.singleton_append,
      hhead, hhead]
  · rw [if_neg (by simp [hp, hlast]), List.append_assoc, List.singleton_append, hhead]

/-- A component joined to a path is its last one. -/
lemma components_join (p : Path) (hc : c.IsStep) :
    (p.join ⟨c.text⟩).components = p.components ++ [c] := by
  rw [components_eq, components_eq p, steps_join hc.head?, hc.steps]
  by_cases hp : p.text.toList = []
  · have hdot : c.text.toList ≠ ['.'] := by
      intro hdot
      have hseg := hc.segment
      rw [hdot] at hseg
      cases hseg
    rw [toList_join hc.head?, if_pos (Or.inl hp), hp]
    simp [cut_eq_singleton hc.not_slash, hdot, cut]
  · rw [head?_cut_join hc.head? hp, List.append_assoc]

/-! ### Components put together -/

/-- Components that a path can have: the first may be a slash or a dot that opens the path, and all
others can stand anywhere. -/
structure Spelled (cs : List Component) : Prop where
  head : ∀ c ∈ cs.head?, c.IsStep ∨ c = .root ∨ c = .here
  tail : ∀ c ∈ cs.tail, c.IsStep

namespace Spelled

lemma nil : Spelled [] := ⟨by simp, by simp⟩

/-- One component may be of any kind. -/
lemma singleton (h : c.IsStep ∨ c = .root ∨ c = .here) : Spelled [c] := by
  refine ⟨?_, by simp⟩
  intro d hd
  obtain rfl : c = d := by simpa using hd
  exact h

/-- One more component at the end. -/
lemma concat (h : Spelled cs) (hc : c.IsStep) : Spelled (cs ++ [c]) := by
  cases cs with
  | nil => exact singleton (Or.inl hc)
  | cons d ds =>
    refine ⟨h.head, ?_⟩
    intro e he
    rcases List.mem_append.mp he with he | he
    · exact h.tail e he
    · obtain rfl := List.mem_singleton.mp he
      exact hc

/-- One component less at the end. -/
lemma dropLast (h : Spelled cs) : Spelled cs.dropLast := by
  cases cs with
  | nil => exact nil
  | cons c cs =>
    cases cs with
    | nil => exact nil
    | cons d ds => exact ⟨h.head, fun e he => h.tail e (List.dropLast_subset (d :: ds) he)⟩

/-- All components from the first on are put together in turn. -/
lemma components_foldl (hcs : ∀ c ∈ cs, c.IsStep) (p : Path) :
    (cs.foldl (fun p c => p.join ⟨c.text⟩) p).components = p.components ++ cs := by
  induction cs generalizing p with
  | nil => rw [List.foldl_nil, List.append_nil]
  | cons c cs ih =>
    rw [List.foldl_cons, ih fun d hd => hcs d (List.mem_cons_of_mem c hd),
      components_join p (hcs c List.mem_cons_self), List.append_assoc, List.singleton_append]

/-- What components are put together to has these components. -/
theorem components_ofComponents (h : Spelled cs) : (ofComponents cs).components = cs := by
  cases cs with
  | nil => rfl
  | cons c cs =>
    have hfirst : ((⟨""⟩ : Path).join ⟨c.text⟩).components = [c] := by
      rcases h.head c rfl with hc | rfl | rfl
      · exact components_join ⟨""⟩ hc
      · decide
      · decide
    have htail : ∀ d ∈ cs, d.IsStep := h.tail
    rw [ofComponents, List.foldl_cons, components_foldl htail, hfirst, List.singleton_append]

end Spelled

/-! ### Tidy paths -/

/-- A path that is put together from components. -/
def Tidy (p : Path) : Prop := ∃ cs, Spelled cs ∧ p = ofComponents cs

/-- Tidy paths that are the same are equal. -/
theorem Tidy.eq_of_same (hp : p.Tidy) (hq : q.Tidy) (h : p.same q = true) : p = q := by
  obtain ⟨cs, hcs, rfl⟩ := hp
  obtain ⟨ds, hds, rfl⟩ := hq
  have hcomponents := same_iff.mp h
  rw [hcs.components_ofComponents, hds.components_ofComponents] at hcomponents
  rw [hcomponents]

/-- Components put together with one more are joined to it. -/
lemma ofComponents_concat (cs : List Component) (c : Component) :
    ofComponents (cs ++ [c]) = (ofComponents cs).join ⟨c.text⟩ := by
  rw [ofComponents, List.foldl_append]
  rfl

/-- A tidy path with a name joined to it is tidy. -/
lemma Tidy.join (hp : p.Tidy) {n : String} (hn : IsName n) : (p.join ⟨n⟩).Tidy := by
  obtain ⟨cs, hcs, rfl⟩ := hp
  refine ⟨cs ++ [.name n], hcs.concat hn.isStep, ?_⟩
  rw [ofComponents_concat, Component.text]

/-- An ending goes to the path that is joined last. -/
lemma join_append {t : String} (hne : t.toList ≠ []) (ht : t.toList.head? ≠ some '/') (p : Path)
    (e : String) : (⟨(p.join ⟨t⟩).text ++ e⟩ : Path) = p.join ⟨t ++ e⟩ := by
  have hte : (⟨t ++ e⟩ : Path).text.toList.head? ≠ some '/' := by
    change (t ++ e).toList.head? ≠ some '/'
    rwa [String.toList_append, List.head?_append_of_ne_nil _ hne]
  rw [Path.mk.injEq, ← String.toList_inj, String.toList_append, toList_join ht, toList_join hte,
    String.toList_append, List.append_assoc]

/-- The last component can stand anywhere, unless it is the only one. -/
lemma Spelled.last (h : Spelled (cs ++ [c])) : c.IsStep ∨ (cs = [] ∧ (c = .root ∨ c = .here)) := by
  cases cs with
  | nil => exact (h.head c rfl).imp_right fun hc => ⟨rfl, hc⟩
  | cons d ds => exact Or.inl (h.tail c (by simp))

/-- A tidy path with an ending of three or more characters is tidy. -/
lemma Tidy.append (hp : p.Tidy) {e : String} (hslash : '/' ∉ e.toList)
    (hlength : 3 ≤ e.toList.length) : (⟨p.text ++ e⟩ : Path).Tidy := by
  have hname : ∀ t : String, '/' ∉ t.toList → IsName (t ++ e) := by
    intro t ht
    apply isName_of_length
    · simp [ht, hslash]
    · rw [String.toList_append, List.length_append]
      omega
  have he : IsName e := isName_of_length hslash hlength
  -- the ending becomes part of the last component, unless that is the root
  have hlast : ∀ init : List Component, ∀ d : Component, Spelled init → '/' ∉ d.text.toList →
      d.text.toList ≠ [] → (⟨(ofComponents (init ++ [d])).text ++ e⟩ : Path).Tidy := by
    intro init d hinit hd hne
    have hhead : d.text.toList.head? ≠ some '/' := fun hh => hd (List.mem_of_mem_head? hh)
    refine ⟨init ++ [.name (d.text ++ e)], hinit.concat (hname d.text hd).isStep, ?_⟩
    rw [ofComponents_concat, ofComponents_concat, join_append hne hhead, Component.text]
  obtain ⟨cs, hcs, rfl⟩ := hp
  rcases List.eq_nil_or_concat' cs with rfl | ⟨init, c, rfl⟩
  · have hempty : (⟨(ofComponents []).text ++ e⟩ : Path) = (⟨""⟩ : Path).join ⟨e⟩ := by
      rw [Path.mk.injEq, ← String.toList_inj, toList_join he.head?]
      rfl
    rw [hempty]
    exact Tidy.join ⟨[], .nil, rfl⟩ he
  · have hinit : Spelled init := by simpa using hcs.dropLast
    rcases hcs.last with hc | ⟨rfl, rfl | rfl⟩
    · exact hlast init c hinit hc.not_slash hc.ne_nil
    · have hroot : (⟨(ofComponents [.root]).text ++ e⟩ : Path)
          = (ofComponents [.root]).join ⟨e⟩ := by
        rw [Path.mk.injEq, ← String.toList_inj, toList_join he.head?, String.toList_append]
        rfl
      rw [List.nil_append, hroot]
      exact Tidy.join ⟨[.root], .singleton (by simp), rfl⟩ he
    · exact hlast [] .here .nil (by decide) (by decide)

/-! ### Normal forms -/

/-- One more component on a walk leaves components that a path can have. -/
lemma Spelled.walk {done : List Component} (h : Spelled done.reverse) (hc : c.IsStep) :
    Spelled (walk done c).reverse := by
  cases c with
  | root => exact absurd hc.segment (segment?_ne_root _)
  | here => exact absurd hc.segment (segment?_ne_here _)
  | name s =>
    rw [Path.walk, List.reverse_cons]
    · exact h.concat hc
    · simp
    · simp
  | up =>
    have hup : Spelled (Component.up :: done).reverse := by
      rw [List.reverse_cons]
      exact h.concat hc
    cases done with
    | nil => exact hup
    | cons d rest =>
      cases d with
      | name s => simpa [Path.walk] using h.dropLast
      | root => exact h
      | here => exact hup
      | up => exact hup

/-- Components that a path can have settle to such components. -/
lemma Spelled.settle (h : Spelled cs) : Spelled (settle cs) := by
  have hfold : ∀ ds : List Component, (∀ d ∈ ds, d.IsStep) → ∀ done : List Component,
      Spelled done.reverse → Spelled (ds.foldl Path.walk done).reverse := by
    intro ds
    induction ds with
    | nil => exact fun _ _ hdone => hdone
    | cons d ds ih =>
      intro hds done hdone
      rw [List.foldl_cons]
      exact ih (fun e he => hds e (List.mem_cons_of_mem d he)) _
        (hdone.walk (hds d List.mem_cons_self))
  cases cs with
  | nil => exact .nil
  | cons c cs =>
    rw [Path.settle, List.foldl_cons]
    refine hfold cs h.tail _ ?_
    rcases h.head c rfl with hc | rfl | rfl
    · have hnil : Spelled ([] : List Component).reverse := .nil
      exact hnil.walk hc
    · exact .singleton (by simp)
    · exact .nil

/-- The steps of a path are components that a path can have. -/
lemma spelled_steps (p : Path) : Spelled p.steps := by
  have hsegments : ∀ c ∈ (cut p.text.toList).filterMap segment?, c.IsStep := by
    intro c hc
    obtain ⟨w, hw, hseg⟩ := List.mem_filterMap.mp hc
    exact isStep_of_segment? (not_slash_mem_of_mem_cut hw) hseg
  rw [steps_eq, stepsOf]
  split
  · exact ⟨by simp, hsegments⟩
  · rw [List.nil_append]
    exact ⟨fun c hc => Or.inl (hsegments c (List.mem_of_mem_head? hc)),
      fun c hc => hsegments c (List.mem_of_mem_tail hc)⟩

/-- Every normal form is tidy. -/
theorem tidy_normalize (p : Path) : p.normalize.Tidy := by
  have hsettle : Spelled (settle p.components) := by
    rw [← settle_filter]
    exact (spelled_steps p).settle
  unfold normalize
  split
  · exact ⟨[.here], .singleton (by simp), rfl⟩
  · exact ⟨_, hsettle, rfl⟩

end PageConfig.Path
