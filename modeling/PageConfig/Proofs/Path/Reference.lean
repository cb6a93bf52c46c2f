import PageConfig.Proofs.Path.Places
import PageConfig.Proofs.Path.Settled

/-!
# References lead to their targets

The way from one directory to a file goes up from what the directory does not
share with the file, and down to the file.  Going up cancels the names that are
not shared and nothing else, as long as only names are left there: both places
are given from the root, or both from one directory above which the file goes
at least as far as the directory (`SameBase`).

A reference is that way, without the extension of the file.  So, seen from the
directory, it leads to the path of the file without its extension
(`SameBase.settled_join`), even when what is left of the file name is no name
any more but a step up.
-/

namespace PageConfig.Path

variable {p q start goal : Path} {c : Component} {cs : List Component}

/-! ### Paths without extension -/

/-- A path with the extension of its file name cut off. -/
def withoutExtension (p : Path) : Path :=
  match p.fileName? with
  | some s => p.withFileName (String.ofList (bareName s.toList))
  | none => p

/-- What is left of a file name without its extension is the first part of it, or a step up. -/
lemma bareName_cases (w : List Char) : bareName w <+: w ∨ bareName w = ['.', '.'] := by
  have hstem := splitName_fst_prefix_self w
  unfold bareName
  split
  · exact Or.inl List.prefix_rfl
  · rename_i stem ext hsplit
    rw [hsplit] at hstem
    split
    · exact Or.inr rfl
    · exact Or.inl hstem

/-- What is left of a file name is no blank segment. -/
lemma IsName.exists_segment?_bareName {s : String} (h : IsName s) :
    ∃ c, segment? (bareName s.toList) = some c := by
  unfold bareName
  split
  · exact ⟨_, h.segment⟩
  · rename_i stem ext hsplit
    have hstem : stem ≠ [] := (splitName_eq_some hsplit).1
    split
    · exact ⟨.up, rfl⟩
    · rename_i hdot
      unfold segment?
      split
      · exact absurd rfl hstem
      · exact absurd rfl hdot
      · exact ⟨_, rfl⟩
      · exact ⟨_, rfl⟩

/-- What is left of a file name has no slash. -/
lemma IsName.not_slash_mem_bareName {s : String} (h : IsName s) : '/' ∉ bareName s.toList := by
  rcases bareName_cases s.toList with hfirst | hup
  · exact fun hmem => h.not_slash (hfirst.subset hmem)
  · rw [hup]
    decide

/-- A name that can stand anywhere is one. -/
lemma Component.IsStep.isName {s : String} (h : (Component.name s).IsStep) : IsName s :=
  ⟨h.not_slash, h.segment⟩

/-- The names among the components that a path can have. -/
lemma Spelled.isName {s : String} (h : Spelled cs) (hs : Component.name s ∈ cs) : IsName s := by
  cases cs with
  | nil => cases hs
  | cons c cs =>
    rcases List.mem_cons.mp hs with rfl | hs
    · rcases h.head _ rfl with hc | hc | hc
      · exact hc.isName
      · cases hc
      · cases hc
    · exact (h.tail _ hs).isName

/-- A component without its extension, if it is the last one. -/
lemma bare_concat_name {s : String} (hs : IsName s) (init : List Component) :
    ∃ c, segment? (bareName s.toList) = some c ∧ c.IsStep ∧
      bare (init ++ [.name s]) = init ++ [c] := by
  obtain ⟨c, hc⟩ := hs.exists_segment?_bareName
  refine ⟨c, hc, isStep_of_segment? hs.not_slash_mem_bareName hc, ?_⟩
  rw [bare, List.getLast?_concat]
  simp only [List.dropLast_concat, hc, Option.getD_some]

/-- Only a name at the end has an extension. -/
lemma bare_of_getLast? (h : ∀ s, cs.getLast? ≠ some (.name s)) : bare cs = cs := by
  unfold bare
  split
  · rename_i s hs
    exact absurd hs (h s)
  · rfl

/-- The extension is that of the last component, whatever is in front. -/
lemma bare_append (as : List Component) (h : cs ≠ []) : bare (as ++ cs) = as ++ bare cs := by
  rw [bare, bare, List.getLast?_append_of_ne_nil _ h, List.dropLast_append_of_ne_nil h]
  split
  · rw [List.append_assoc]
  · rfl

/-- Without the extension, components that can stand anywhere still can. -/
lemma isStep_of_mem_bare (h : ∀ c ∈ cs, c.IsStep) : ∀ c ∈ bare cs, c.IsStep := by
  rcases List.eq_nil_or_concat' cs with rfl | ⟨init, last, rfl⟩
  · exact h
  · cases hlast : last with
    | name s =>
      rw [hlast] at h
      have hs : IsName s := (h (.name s) (by simp)).isName
      obtain ⟨c, -, hc, hbare⟩ := bare_concat_name hs init
      rw [hbare]
      intro d hd
      rcases List.mem_append.mp hd with hd | hd
      · exact h d (List.mem_append_left _ hd)
      · rwa [List.mem_singleton.mp hd]
    | _ =>
      rw [← hlast, bare_of_getLast? (by simp [hlast])]
      exact h

/-- The last component of a path is its last step, if that component is a name. -/
lemma getLast?_steps {s : String} (h : p.components.getLast? = some (.name s)) :
    p.steps.getLast? = some (.name s) := by
  rw [components_eq] at h
  cases hsteps : p.steps.getLast? with
  | some c => rwa [List.getLast?_append, hsteps, Option.some_or] at h
  | none =>
    rw [List.getLast?_append, hsteps, Option.none_or] at h
    split at h <;> simp at h

/-- The steps of a path without its extension. -/
lemma steps_withoutExtension (p : Path) : p.withoutExtension.steps = bare p.steps := by
  unfold withoutExtension
  split
  · rename_i s hname
    have hlast : p.steps.getLast? = some (.name s) := by
      apply getLast?_steps
      unfold fileName? at hname
      split at hname
      · rename_i n hn
        rw [hn, Option.some.inj hname]
      · cases hname
    obtain ⟨init, hinit⟩ := List.getLast?_eq_some_iff.mp hlast
    have hs : IsName s := (spelled_steps p).isName (List.mem_of_getLast? hlast)
    obtain ⟨c, hc, -, hbare⟩ := bare_concat_name hs init
    have hslash := hs.not_slash_mem_bareName
    have hhead : (⟨String.ofList (bareName s.toList)⟩ : Path).text.toList.head? ≠ some '/' := by
      rw [String.toList_ofList]
      exact fun hh => hslash (List.mem_of_mem_head? hh)
    rw [withFileName, hname, Option.isSome_some, if_pos rfl, steps_join hhead, steps_parent, hinit,
      List.dropLast_concat, hbare, steps_eq, String.toList_ofList, stepsOf_of_head?,
      cut_eq_singleton hslash, List.filterMap_cons_some hc, List.filterMap_nil]
    rwa [String.toList_ofList] at hhead
  · rename_i hname
    refine (bare_of_getLast? fun s hs => ?_).symm
    rw [fileName?_of_steps hs] at hname
    cases hname

/-! ### The way between two places -/

/-- Two walks have their first steps in common, up to where they diverge. -/
lemma exists_diverge (as bs : List Component) :
    ∃ common, as = common ++ (diverge as bs).1 ∧ bs = common ++ (diverge as bs).2 := by
  fun_induction diverge as bs with
  | case1 as a bs ih =>
    obtain ⟨common, has, hbs⟩ := ih
    exact ⟨a :: common, by rw [List.cons_append, ← has], by rw [List.cons_append, ← hbs]⟩
  | case2 a as b bs hne => exact ⟨[], rfl, rfl⟩
  | case3 as bs hcons => exact ⟨[], rfl, rfl⟩

/-- What two walks start with in common does not matter for where they diverge. -/
lemma diverge_append (common as bs : List Component) :
    diverge (common ++ as) (common ++ bs) = diverge as bs := by
  induction common with
  | nil => rfl
  | cons c common ih => rw [List.cons_append, List.cons_append, diverge, if_pos rfl, ih]

/-- Two places of which the second can be reached from the first by going up and down: both are
given from the root, or neither is, and the second goes up from where relative paths start at least
as far as the first. -/
structure SameBase (p q : Path) : Prop where
  absolute : p.isAbsolute = q.isAbsolute
  up : p.settled.count .up ≤ q.settled.count .up

/-- The normal form of an absolute path is the root and names. -/
lemma exists_settled_of_isAbsolute (h : p.isAbsolute = true) :
    ∃ names : List String, p.settled = .root :: names.map .name := by
  obtain ⟨names, hnames, hnormal⟩ := (rooted_of_isAbsolute h).plain_normalize
  exact ⟨names, by rw [← steps_normalize, hnormal, hnames.steps_path]⟩

/-- Absolute paths share the root. -/
lemma SameBase.of_isAbsolute (hp : p.isAbsolute = true) (hq : q.isAbsolute = true) :
    SameBase p q := by
  obtain ⟨names, hnames⟩ := exists_settled_of_isAbsolute hp
  have hup : p.settled.count .up = 0 := by
    rw [hnames, List.count_eq_zero]
    simp
  exact ⟨by rw [hp, hq], by rw [hup]; exact Nat.zero_le _⟩

/-- A plain path is its own normal form. -/
lemma Plain.normalize_eq (hp : p.Plain) : p.normalize = p := by
  have hnormal := hp.rooted.plain_normalize
  rw [← hnormal.same_iff hp, Path.same_iff, hnormal.rooted.components_eq, hp.rooted.components_eq,
    steps_normalize, settled]
  obtain ⟨names, hnames, rfl⟩ := hp
  apply settle_of_normalWalk
  rw [hnames.steps_path, List.reverse_cons, ← List.map_reverse]
  exact NormalWalk.root.names_append names.reverse

/-- A walk that does not start at the root never gets there. -/
lemma root_not_mem_foldl_walk {done : List Component} (hdone : Component.root ∉ done)
    (hcs : ∀ c ∈ cs, c.IsStep) : Component.root ∉ cs.foldl walk done := by
  induction cs generalizing done with
  | nil => exact hdone
  | cons c cs ih =>
    rw [List.foldl_cons]
    refine ih ?_ fun d hd => hcs d (List.mem_cons_of_mem c hd)
    have hc := hcs c List.mem_cons_self
    cases c with
    | root => exact absurd hc.segment (segment?_ne_root _)
    | here => exact absurd hc.segment (segment?_ne_here _)
    | name s => simpa [walk] using hdone
    | up =>
      cases done with
      | nil => simp [walk]
      | cons d rest =>
        have hrest : Component.root ∉ rest := fun hmem => hdone (List.mem_cons_of_mem d hmem)
        cases d with
        | name s => exact hrest
        | root => exact hdone
        | here => simpa [walk] using hrest
        | up => simpa [walk] using hrest

/-- The normal form of a relative path is steps up and names. -/
lemma exists_settled_of_not_isAbsolute (h : p.isAbsolute = false) :
    ∃ (n : Nat) (names : List String), p.settled = List.replicate n .up ++ names.map .name := by
  have hsteps : ∀ c ∈ p.steps, c.IsStep := by
    have hspelled := spelled_steps p
    cases hp : p.steps with
    | nil => simp
    | cons c cs =>
      rw [hp] at hspelled
      intro d hd
      rcases List.mem_cons.mp hd with rfl | hd
      · rcases hspelled.head d rfl with hc | rfl | rfl
        · exact hc
        · have hrooted : p.Rooted := by rw [Rooted, hp, List.head?_cons]
          rw [hrooted.isAbsolute] at h
          cases h
        · have hhere : Component.here ∈ p.steps := by simp [hp]
          simp [steps] at hhere
      · exact hspelled.tail d hd
  have hroot : Component.root ∉ p.settled := by
    rw [settled, settle, List.mem_reverse]
    exact root_not_mem_foldl_walk (by simp) hsteps
  obtain ⟨names, hshape | ⟨n, hshape⟩⟩ := (normalWalk_settled p).shape
  · rw [List.reverse_reverse] at hshape
    exact absurd (by simp [hshape]) hroot
  · rw [List.reverse_reverse] at hshape
    exact ⟨n, names, hshape⟩

/-- The steps of a normal form after its opening can stand anywhere. -/
lemma isStep_of_mem_settled (hroot : c ≠ .root) (hc : c ∈ p.settled) : c.IsStep := by
  have hspelled := spelled_settled p
  have hhere : c ≠ .here := by
    rintro rfl
    exact (normalWalk_settled p).here_not_mem (List.mem_reverse.mpr hc)
  cases hp : p.settled with
  | nil => simp [hp] at hc
  | cons d ds =>
    rw [hp] at hspelled hc
    rcases List.mem_cons.mp hc with rfl | hc
    · rcases hspelled.head c rfl with h | h | h
      · exact h
      · exact absurd h hroot
      · exact absurd h hhere
    · exact hspelled.tail c hc

/-- The way from one place to another: what they share, the names of the first that are left, and
the steps of the second that are left. -/
structure Way (start goal : Path) (common : List Component) (behind : List String)
    (ahead : List Component) : Prop where
  start_eq : start.settled = common ++ behind.map .name
  goal_eq : goal.settled = common ++ ahead
  lead_eq : lead start.settled goal.settled = List.replicate behind.length .up ++ ahead
  isStep : ∀ c ∈ ahead, c.IsStep
  /-- Nothing is left of a place that the first one is in. -/
  ahead_eq : goal.settled <+: start.settled → ahead = []

/-- What is left of names is names. -/
lemma exists_diverge_names (names : List String) (bs : List Component) :
    ∃ (common : List Component) (behind : List String),
      names.map Component.name = common ++ behind.map .name ∧
      bs = common ++ (diverge (names.map .name) bs).2 ∧
      (diverge (names.map .name) bs).1 = behind.map .name := by
  obtain ⟨common, hnames, hbs⟩ := exists_diverge (names.map Component.name) bs
  obtain ⟨shared, behind, -, -, hbehind⟩ := List.map_eq_append_iff.mp hnames
  exact ⟨common, behind, by rw [hbehind, ← hnames], hbs, hbehind.symm⟩

/-- There is a way between places that share a base. -/
lemma SameBase.exists_way (h : SameBase start goal) :
    ∃ common behind ahead, Way start goal common behind ahead := by
  have hway : ∀ (front : List Component) (names : List String) (bs : List Component),
      start.settled = front ++ names.map .name → goal.settled = front ++ bs →
      Component.root ∉ bs → ∃ common behind ahead, Way start goal common behind ahead := by
    intro front names bs hstart hgoal hroot
    obtain ⟨common, behind, hnames, hbs, hbehind⟩ := exists_diverge_names names bs
    set ahead := (diverge (names.map .name) bs).2 with hahead
    refine ⟨front ++ common, behind, ahead, ⟨?_, ?_, ?_, ?_, ?_⟩⟩
    · rw [hstart, hnames, List.append_assoc]
    · rw [List.append_assoc, ← hbs, hgoal]
    · rw [hstart, hgoal, lead, diverge_append]
      simp only [hbehind, ← hahead, List.map_const', List.length_map]
    · intro c hc
      have hmem : c ∈ bs := by
        rw [hbs]
        exact List.mem_append_right common hc
      refine isStep_of_mem_settled (p := goal) ?_ ?_
      · rintro rfl
        exact hroot hmem
      · rw [hgoal]
        exact List.mem_append_right front hmem
    · intro hfirst
      rw [hstart, hgoal, List.prefix_append_right_inj] at hfirst
      obtain ⟨rest, hrest⟩ := hfirst
      have hdiverge := diverge_append bs rest []
      rw [List.append_nil, hrest] at hdiverge
      rw [hahead, hdiverge]
      cases rest <;> rfl
  cases habs : start.isAbsolute with
  | true =>
    obtain ⟨names, hstart⟩ := exists_settled_of_isAbsolute habs
    obtain ⟨names', hgoal⟩ := exists_settled_of_isAbsolute (h.absolute ▸ habs)
    exact hway [.root] names (names'.map .name) hstart hgoal (by simp)
  | false =>
    obtain ⟨n, names, hstart⟩ := exists_settled_of_not_isAbsolute habs
    obtain ⟨m, names', hgoal⟩ := exists_settled_of_not_isAbsolute (h.absolute ▸ habs)
    have hcount : ∀ (k : Nat) (names : List String),
        (List.replicate k Component.up ++ names.map Component.name).count .up = k := by
      intro k names
      have hnames : (names.map Component.name).count .up = 0 :=
        List.count_eq_zero.mpr (by simp)
      rw [List.count_append, List.count_replicate_self, hnames, Nat.add_zero]
    have hle : n ≤ m := by
      have hup := h.up
      rwa [hstart, hgoal, hcount, hcount] at hup
    have hsplit : List.replicate m Component.up
        = List.replicate n .up ++ List.replicate (m - n) .up := by
      rw [List.replicate_append_replicate, Nat.add_sub_of_le hle]
    refine hway (List.replicate n .up) names (List.replicate (m - n) .up ++ names'.map .name)
      hstart ?_ (by simp)
    rw [hgoal, hsplit, List.append_assoc]

/-- Going up from names leads to where they start. -/
lemma foldl_walk_up (names : List String) (done : List Component) :
    (List.replicate names.length Component.up).foldl walk (names.map .name ++ done) = done := by
  induction names with
  | nil => rfl
  | cons s names ih =>
    rw [List.length_cons, List.replicate_succ, List.foldl_cons]
    exact ih

/-- From a place, the way up and then on leads to where it goes on from what is shared. -/
lemma Way.settle_append {common : List Component} {behind : List String} {ahead : List Component}
    (h : Way start goal common behind ahead) (cs : List Component) :
    settle (start.settled ++ (List.replicate behind.length .up ++ cs)) = settle (common ++ cs) := by
  have hstart := normalWalk_settled start
  rw [h.start_eq, List.reverse_append] at hstart
  have hall := hstart.foldl_reverse
  have hcommon := hstart.of_append.foldl_reverse
  rw [List.reverse_append, List.reverse_reverse, List.reverse_reverse] at hall
  rw [List.reverse_reverse] at hcommon
  have hup : (List.replicate behind.length Component.up).foldl walk
      ((behind.map .name).reverse ++ common.reverse) = common.reverse := by
    have hreverse := foldl_walk_up behind.reverse common.reverse
    rwa [List.length_reverse, List.map_reverse] at hreverse
  rw [settle, settle, h.start_eq, List.foldl_append, hall, List.foldl_append, hup,
    List.foldl_append, hcommon]

/-- Every step of the way can stand anywhere. -/
lemma SameBase.isStep_of_mem_lead (h : SameBase start goal) :
    ∀ c ∈ lead start.settled goal.settled, c.IsStep := by
  obtain ⟨common, behind, ahead, way⟩ := h.exists_way
  intro c hc
  rw [way.lead_eq] at hc
  rcases List.mem_append.mp hc with hc | hc
  · rw [List.eq_of_mem_replicate hc]
    exact isStep_up
  · exact way.isStep c hc

/-- The components of the path between two places are the steps of the way. -/
lemma SameBase.components_relative (h : SameBase start goal) :
    (relative start goal).components = lead start.settled goal.settled := by
  rw [relative, settle_components, settle_components, Spelled.components_ofComponents]
  exact ⟨fun c hc => Or.inl (h.isStep_of_mem_lead c (List.mem_of_mem_head? hc)),
    fun c hc => h.isStep_of_mem_lead c (List.mem_of_mem_tail hc)⟩

/-! ### References -/

section

variable (h : ∀ c ∈ cs, c.IsStep)
include h

/-- No slash opens components that can stand anywhere. -/
lemma head?_glue : (glue (cs.map fun c => c.text.toList)).head? ≠ some '/' := by
  cases cs with
  | nil => simp [glue]
  | cons c rest =>
    have hc : c.IsStep := h c List.mem_cons_self
    have hfirst : c.text.toList.head? ≠ some '/' := hc.head?
    cases rest with
    | nil => simpa [glue] using hfirst
    | cons d rest => simpa [glue, List.head?_append_of_ne_nil _ hc.ne_nil] using hfirst

/-- Components that can stand anywhere are cut apart again. -/
lemma filterMap_cut_glue : (cut (glue (cs.map fun c => c.text.toList))).filterMap segment? = cs := by
  have hslash : ∀ w ∈ cs.map (fun c : Component => c.text.toList), '/' ∉ w := by
    intro w hw
    obtain ⟨c, hc, rfl⟩ := List.mem_map.mp hw
    exact (h c hc).not_slash
  have hsegments : (cs.map fun c : Component => c.text.toList).filterMap segment? = cs := by
    rw [List.filterMap_map]
    exact (List.filterMap_congr fun c hc => (h c hc).segment).trans List.filterMap_some
  cases hcs : cs with
  | nil => rfl
  | cons c rest => rw [← hcs, cut_glue (by simp [hcs]) hslash, hsegments]

end

/-- A promoted text says where it starts. -/
lemma promote_cases (s : String) :
    (promote s).startsWith "./" = true ∨ (promote s).startsWith "../" = true ∨
      promote s = ".." := by
  unfold promote
  split
  · rename_i h
    simp only [Bool.or_eq_true, beq_iff_eq] at h
    rcases h with (h | h) | h
    · exact Or.inr (Or.inl h)
    · exact Or.inl h
    · exact Or.inr (Or.inr h)
  · refine Or.inl ?_
    rw [String.startsWith_string_iff]
    exact ⟨s.toList, by simp⟩

/-- A promoted text points into the project. -/
lemma isRelativeSpecifier_promote (s : String) : isRelativeSpecifier (promote s) = true := by
  rw [isRelativeSpecifier]
  rcases promote_cases s with h | h | h
  · simp only [h, Bool.or_true, Bool.true_or]
  · simp only [h, Bool.or_true]
  · simp only [h, beq_self_eq_true, Bool.or_true, Bool.true_or]

/-- Promoting a text keeps its steps, unless a slash opens it. -/
lemma steps_promote {s : String} (h : s.toList.head? ≠ some '/') :
    (⟨promote s⟩ : Path).steps = (cut s.toList).filterMap segment? := by
  unfold promote
  split
  · rw [steps_eq, stepsOf_of_head? h]
  · have htext : ("./" ++ s).toList = ['.'] ++ '/' :: s.toList := by
      rw [String.toList_append]
      rfl
    rw [steps_eq, htext, stepsOf_append_slash _ (by simp)]
    rfl

/-- The steps of a reference are those of the way, without the extension at its end. -/
lemma SameBase.steps_moduleReference (h : SameBase start goal) :
    (⟨moduleReference start goal⟩ : Path).steps = bare (lead start.settled goal.settled) := by
  have hbare := isStep_of_mem_bare h.isStep_of_mem_lead
  have htext : ("/".intercalate ((bare (lead start.settled goal.settled)).map
      Component.text)).toList
      = glue ((bare (lead start.settled goal.settled)).map fun c => c.text.toList) := by
    rw [String.toList_intercalate, List.map_map]
    exact intercalate_eq_glue _
  rw [moduleReference, h.components_relative, steps_promote, htext, filterMap_cut_glue hbare]
  rw [htext]
  exact head?_glue hbare

/-- No slash opens a reference. -/
lemma head?_moduleReference (start goal : Path) :
    (⟨moduleReference start goal⟩ : Path).text.toList.head? ≠ some '/' := by
  have hdot : (moduleReference start goal).toList.head? = some '.' :=
    head?_of_isRelativeSpecifier (isRelativeSpecifier_promote _)
  rw [hdot]
  decide

/-- Where a path leads once the extension of its normal form is cut off. -/
lemma settled_withoutExtension (p : Path) :
    p.normalize.withoutExtension.settled = settle (bare p.settled) := by
  rw [settled, steps_withoutExtension, steps_normalize]

/-- Seen from the directory, a reference leads to the path of its target without the extension. -/
theorem SameBase.settled_join (h : SameBase start goal)
    (hfile : ¬ goal.settled <+: start.settled) :
    (start.join ⟨moduleReference start goal⟩).settled = settle (bare goal.settled) := by
  obtain ⟨common, behind, ahead, way⟩ := h.exists_way
  have hne : ahead ≠ [] := by
    rintro rfl
    apply hfile
    rw [way.goal_eq, way.start_eq, List.append_nil]
    exact List.prefix_append _ _
  rw [settled, steps_join (head?_moduleReference start goal), h.steps_moduleReference,
    settle_append, way.lead_eq, bare_append _ hne, way.settle_append, way.goal_eq,
    bare_append _ hne]

/-- A reference to the directory itself or to one above it leads there. -/
lemma SameBase.settled_join_of_prefix (h : SameBase start goal)
    (habove : goal.settled <+: start.settled) :
    (start.join ⟨moduleReference start goal⟩).settled = goal.settled := by
  obtain ⟨common, behind, ahead, way⟩ := h.exists_way
  obtain rfl : ahead = [] := way.ahead_eq habove
  have hbare : bare (List.replicate behind.length Component.up)
      = List.replicate behind.length .up := by
    refine bare_of_getLast? fun s hs => ?_
    cases List.eq_of_mem_replicate (List.mem_of_getLast? hs)
  have hgoal := way.goal_eq
  rw [List.append_nil] at hgoal
  rw [settled, steps_join (head?_moduleReference start goal), h.steps_moduleReference,
    settle_append, way.lead_eq, List.append_nil, hbare,
    ← List.append_nil (List.replicate behind.length Component.up), way.settle_append,
    List.append_nil, ← hgoal, settle_of_normalWalk (normalWalk_settled goal)]

/-- **A reference denotes its target.**  Seen from the directory, it leads to the path of the target
without its extension, whatever the spellings; and it says that it points into the project. -/
theorem moduleReference_denotes (hstart : start.isAbsolute = true) (hgoal : goal.isAbsolute = true)
    (hfile : ¬ goal.normalize.components <+: start.normalize.components) :
    (start.join ⟨moduleReference start goal⟩).normalize
        = goal.normalize.withoutExtension.normalize ∧
      isRelativeSpecifier (moduleReference start goal) = true ∧
      ((moduleReference start goal).startsWith "./" = true ∨
        (moduleReference start goal).startsWith "../" = true ∨
        moduleReference start goal = "..") := by
  have hcomponents : ∀ r : Path, r.isAbsolute = true → r.normalize.components = r.settled := by
    intro r hr
    have hplain := (rooted_of_isAbsolute hr).plain_normalize
    rw [hplain.rooted.components_eq, steps_normalize]
  have hbase : SameBase start goal := .of_isAbsolute hstart hgoal
  rw [hcomponents start hstart, hcomponents goal hgoal] at hfile
  refine ⟨normalize_eq_of_settled ?_, isRelativeSpecifier_promote _, promote_cases _⟩
  rw [hbase.settled_join hfile, settled_withoutExtension]

/-- From a directory spelled with a detour, to a file whose name is nothing but dots without its
extension: the reference goes up from the directory of the file. -/
theorem moduleReference_denotes_dots :
    (⟨"/app//src/./pages/../me/"⟩ : Path).isAbsolute = true ∧
      (⟨"/app/src/comp/..js"⟩ : Path).isAbsolute = true ∧
      ¬ (⟨"/app/src/comp/..js"⟩ : Path).normalize.components
          <+: (⟨"/app//src/./pages/../me/"⟩ : Path).normalize.components ∧
      moduleReference ⟨"/app//src/./pages/../me/"⟩ ⟨"/app/src/comp/..js"⟩ = "../comp/.." ∧
      ((⟨"/app//src/./pages/../me/"⟩ : Path).join ⟨"../comp/.."⟩).normalize
        = (⟨"/app/src/comp/..js"⟩ : Path).normalize.withoutExtension.normalize := by
  have hreference : moduleReference ⟨"/app//src/./pages/../me/"⟩ ⟨"/app/src/comp/..js"⟩
      = "../comp/.." := by
    have hway : "/".intercalate ((bare (relative ⟨"/app//src/./pages/../me/"⟩
        ⟨"/app/src/comp/..js"⟩).components).map Component.text) = "../comp/.." := by decide
    have hup : "../comp/..".startsWith "../" = true := by
      rw [String.startsWith_string_iff]
      decide
    rw [moduleReference, hway, promote, hup, Bool.true_or, Bool.true_or, if_pos rfl]
  have hstart : (⟨"/app//src/./pages/../me/"⟩ : Path).normalize.components
      = [.root, .name "app", .name "src", .name "me"] := by decide
  have hgoal : (⟨"/app/src/comp/..js"⟩ : Path).normalize.components
      = [.root, .name "app", .name "src", .name "comp", .name "..js"] := by decide
  have hfile : ¬ (⟨"/app/src/comp/..js"⟩ : Path).normalize.components
      <+: (⟨"/app//src/./pages/../me/"⟩ : Path).normalize.components := by
    rw [hstart, hgoal]
    decide
  have hdenotes := @moduleReference_denotes ⟨"/app//src/./pages/../me/"⟩ ⟨"/app/src/comp/..js"⟩
    (by decide) (by decide) hfile
  rw [hreference] at hdenotes
  exact ⟨by decide, by decide, hfile, hreference, hdenotes.1⟩

end PageConfig.Path
