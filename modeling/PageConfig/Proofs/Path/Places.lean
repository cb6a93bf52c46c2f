import PageConfig.Disk.Basic
import PageConfig.Proofs.Path.Names

/-!
# Plain paths

The path of a place is its plainest spelling: a slash, and the names with one
slash between any two.  Such a path is *plain*.  On plain paths nothing is lost
between the text and the names: two plain paths are the same only if they are
equal (`Plain.same_iff`).

Plain paths are what normalisation makes of paths that start at the root
(`Rooted.plain_normalize`).  A walk that starts at the root keeps the root and
names above it, whatever it goes through, and that is the whole argument.
-/

namespace PageConfig

namespace Path

/-! ### Gluing -/

/-- One more segment is glued on with a slash. -/
lemma glue_concat {ws : List (List Char)} (hne : ws ≠ []) (w : List Char) :
    glue (ws ++ [w]) = glue ws ++ '/' :: w := by
  induction ws with
  | nil => exact absurd rfl hne
  | cons v vs ih =>
    cases vs with
    | nil => rfl
    | cons u us => simpa [glue] using ih (by simp)

/-- The last segment can be glued on in two parts. -/
lemma glue_concat_append (ws : List (List Char)) (w e : List Char) :
    glue (ws ++ [w ++ e]) = glue (ws ++ [w]) ++ e := by
  cases ws with
  | nil => rfl
  | cons v vs =>
    have hne : v :: vs ≠ [] := List.cons_ne_nil v vs
    rw [glue_concat hne, glue_concat hne, List.append_assoc, List.cons_append]

/-- Text that is cut at its slashes is put together again. -/
lemma glue_cut (cs : List Char) : glue (cut cs) = cs := by
  induction cs with
  | nil => rfl
  | cons c cs ih =>
    cases hcut : cut cs with
    | nil => exact absurd hcut (cut_ne_nil cs)
    | cons w ws =>
      rw [hcut] at ih
      by_cases hc : c = '/'
      · simp [cut, hc, hcut, glue, ih]
      · rw [cut, if_neg hc, hcut]
        cases ws with
        | nil => simpa [glue] using ih
        | cons v vs => simpa [glue] using ih

/-- Gluing adds slashes and nothing else. -/
lemma mem_glue {c : Char} (hc : c ≠ '/') (ws : List (List Char)) :
    c ∈ glue ws ↔ ∃ w ∈ ws, c ∈ w := by
  induction ws with
  | nil => simp [glue]
  | cons w ws ih =>
    cases ws with
    | nil => simp [glue]
    | cons v vs => simp [glue, ih, hc]

/-- Slashes between texts glue them together. -/
lemma intercalate_eq_glue (ws : List (List Char)) : ['/'].intercalate ws = glue ws := by
  induction ws with
  | nil => rfl
  | cons w ws ih =>
    cases ws with
    | nil => exact List.intercalate_singleton
    | cons v vs =>
      rw [List.intercalate_cons_cons, ih, List.append_assoc]
      rfl

end Path

/-! ### Paths of places -/

namespace Place

open PageConfig.Path (IsName glue)

/-- A place that a path can lead to. -/
def Named (names : Place) : Prop := ∀ n ∈ names, IsName n

variable {names : Place} {n : String}

lemma named_nil : Named [] := by
  intro n hn
  cases hn

/-- A place one name below another. -/
lemma Named.concat (h : names.Named) (hn : IsName n) : Named (names ++ [n]) := by
  intro m hm
  rcases List.mem_append.mp hm with hm | hm
  · exact h m hm
  · obtain rfl := List.mem_singleton.mp hm
    exact hn

/-- The place above another. -/
lemma Named.dropLast (h : names.Named) : Named names.dropLast :=
  fun n hn => h n (List.dropLast_subset names hn)

/-- The text of the path of a place. -/
lemma toList_path (names : Place) :
    names.path.text.toList = '/' :: glue (names.map String.toList) := by
  rw [path, String.toList_append, String.toList_intercalate]
  exact congrArg ('/' :: ·) (Path.intercalate_eq_glue _)

/-- The segments of named places stand for their names. -/
lemma Named.filterMap_segment? (h : names.Named) :
    (names.map String.toList).filterMap Path.segment? = names.map .name := by
  rw [List.filterMap_map, ← List.filterMap_eq_map]
  apply List.filterMap_congr
  intro n hn
  exact (h n hn).segment

/-- The path of a place is cut into the names of the place; the root is cut into one empty
segment. -/
lemma Named.cut_glue (h : names.Named) :
    Path.cut (glue (names.map String.toList))
      = if names = [] then [[]] else names.map String.toList := by
  split
  · rename_i hnil
    rw [hnil]
    rfl
  · rename_i hne
    apply Path.cut_glue
    · simpa using hne
    · intro w hw
      obtain ⟨n, hn, rfl⟩ := List.mem_map.mp hw
      exact (h n hn).not_slash

/-- The components of the path of a place are the root and the names of the place. -/
lemma Named.components_path (h : names.Named) :
    names.path.components = .root :: names.map .name := by
  have hcut : (Path.cut (glue (names.map String.toList))).filterMap Path.segment?
      = names.map .name := by
    rw [h.cut_glue]
    split
    · rename_i hnil
      rw [hnil]
      rfl
    · exact h.filterMap_segment?
  rw [Path.components, Path.layout, toList_path]
  simpa [Path.Layout.components, Path.Layout.opening] using hcut

/-- So are its steps. -/
lemma Named.steps_path (h : names.Named) : names.path.steps = .root :: names.map .name := by
  rw [Path.steps, h.components_path, List.filter_eq_self]
  intro c hc
  rcases List.mem_cons.mp hc with rfl | hc
  · rfl
  · obtain ⟨n, -, rfl⟩ := List.mem_map.mp hc
    rfl

/-- Places whose paths are the same are equal. -/
lemma Named.eq_of_same (h : names.Named) {others : Place} (h' : others.Named)
    (hsame : names.path.same others.path = true) : names = others := by
  have hcomponents := Path.same_iff.mp hsame
  rw [h.components_path, h'.components_path, List.cons.injEq] at hcomponents
  have hinj : Function.Injective Path.Component.name := fun a b hab => Path.Component.name.inj hab
  exact List.map_injective_iff.mpr hinj hcomponents.2

/-- The last name of a place ends its path with something other than a slash. -/
lemma getLast?_toList_path (names : Place) (hn : IsName n) :
    (names ++ [n]).path.text.toList.getLast? ≠ some '/' := by
  have hlast : ∀ cs : List Char, (cs ++ n.toList).getLast? ≠ some '/' := by
    intro cs hlast
    rw [List.getLast?_append_of_ne_nil _ hn.ne_nil] at hlast
    exact hn.not_slash (List.mem_of_getLast? hlast)
  rw [toList_path, List.map_append, List.map_singleton, ← List.nil_append n.toList,
    Path.glue_concat_append, ← List.cons_append]
  exact hlast _

/-- A name joined to the path of a place leads one further. -/
lemma Named.path_join (h : names.Named) (hn : IsName n) :
    names.path.join ⟨n⟩ = (names ++ [n]).path := by
  have hjoin : names.path.join ⟨n⟩
      = if names.path.text.isEmpty || names.path.text.toList.getLast? == some '/'
        then ⟨names.path.text ++ n⟩ else ⟨names.path.text ++ "/" ++ n⟩ := by
    unfold Path.join
    split
    · rename_i cs hcs
      exact absurd (by rw [hcs]; rfl) hn.head?
    · rfl
  rw [hjoin]
  rcases List.eq_nil_or_concat' names with rfl | ⟨init, m, rfl⟩
  · rfl
  · have hm : IsName m := h m (by simp)
    have hempty : (path (init ++ [m])).text ≠ "" := by
      rw [ne_eq, ← String.toList_eq_nil_iff, toList_path]
      simp
    have hslash := getLast?_toList_path init hm
    have hglue : glue ((init ++ [m] ++ [n]).map String.toList)
        = glue ((init ++ [m]).map String.toList) ++ '/' :: n.toList := by
      rw [List.map_append, List.map_singleton, Path.glue_concat (by simp)]
    rw [if_neg (by simp [hempty, hslash]), Path.mk.injEq, ← String.toList_inj, toList_path, hglue]
    simp [String.toList_append, toList_path]

/-- The plainest spelling of the root and names is the path of the place. -/
lemma Named.ofComponents_eq (h : names.Named) :
    Path.ofComponents (.root :: names.map .name) = names.path := by
  have hfold : ∀ front : Place, (front ++ names).Named →
      (names.map Path.Component.name).foldl (fun p c => p.join ⟨c.text⟩) front.path
        = (front ++ names).path := by
    clear h
    induction names with
    | nil => simp
    | cons n names ih =>
      intro front hfront
      have hn : IsName n := hfront n (by simp)
      have hnamed : front.Named := fun m hm => hfront m (by simp [hm])
      have happend : front ++ n :: names = front ++ [n] ++ names := by simp
      rw [List.map_cons, List.foldl_cons, Path.Component.text, hnamed.path_join hn, happend]
      exact ih (front ++ [n]) (by rwa [← happend])
  have hroot : (⟨""⟩ : Path).join ⟨"/"⟩ = path [] := rfl
  rw [Path.ofComponents, List.foldl_cons, Path.Component.text, hroot, hfold [] (by simpa using h)]
  rfl

end Place

namespace Path

/-! ### Plain paths -/

/-- A path that is the plainest spelling of a place. -/
def Plain (p : Path) : Prop := ∃ names : Place, names.Named ∧ p = names.path

variable {p q : Path}

/-- Plain paths are the same only if they are equal. -/
lemma Plain.same_iff (hp : p.Plain) (hq : q.Plain) : p.same q = true ↔ p = q := by
  obtain ⟨names, hnames, rfl⟩ := hp
  obtain ⟨others, hothers, rfl⟩ := hq
  constructor
  · intro hsame
    rw [hnames.eq_of_same hothers hsame]
  · intro heq
    rw [heq, same_refl]

/-- A plain path with a name joined to it is plain. -/
lemma Plain.join (hp : p.Plain) {n : String} (hn : IsName n) : (p.join ⟨n⟩).Plain := by
  obtain ⟨names, hnames, rfl⟩ := hp
  exact ⟨names ++ [n], hnames.concat hn, hnames.path_join hn⟩

/-- A plain path with an ending of three or more characters is plain. -/
lemma Plain.append (hp : p.Plain) {e : String} (hslash : '/' ∉ e.toList)
    (hlength : 3 ≤ e.toList.length) : (⟨p.text ++ e⟩ : Path).Plain := by
  obtain ⟨names, hnames, rfl⟩ := hp
  rcases List.eq_nil_or_concat' names with rfl | ⟨init, m, rfl⟩
  · exact ⟨[e], Place.named_nil.concat (isName_of_length hslash hlength), rfl⟩
  · have hm : IsName m := hnames m (by simp)
    have hinit : Place.Named init := by simpa using hnames.dropLast
    have hname : IsName (m ++ e) := by
      apply isName_of_length
      · simp [hm.not_slash, hslash]
      · rw [String.toList_append, List.length_append]
        omega
    refine ⟨init ++ [m ++ e], hinit.concat hname, ?_⟩
    rw [Path.mk.injEq, ← String.toList_inj, String.toList_append, Place.toList_path,
      Place.toList_path, List.map_append, List.map_append, List.map_singleton, List.map_singleton,
      String.toList_append, glue_concat_append, List.cons_append]

/-! ### Rooted paths -/

/-- A path that starts at the root. -/
def Rooted (p : Path) : Prop := p.steps.head? = some .root

/-- A slash opens a path that starts at the root. -/
lemma Rooted.exists_text (h : p.Rooted) : ∃ cs, p.text.toList = '/' :: cs := by
  rw [Rooted, steps_eq] at h
  by_cases hhead : p.text.toList.head? = some '/'
  · obtain ⟨cs, hcs⟩ := List.head?_eq_some_iff.mp hhead
    exact ⟨cs, hcs⟩
  · rw [stepsOf_of_head? hhead] at h
    obtain ⟨w, -, hw⟩ := List.mem_filterMap.mp (List.mem_of_mem_head? h)
    exact absurd hw (segment?_ne_root w)

/-- A path that a slash opens starts at the root. -/
lemma rooted_of_text {cs : List Char} (h : p.text.toList = '/' :: cs) : p.Rooted := by
  rw [Rooted, steps_eq, h]
  rfl

/-- The components of a path that starts at the root are its steps. -/
lemma Rooted.components_eq (h : p.Rooted) : p.components = p.steps := by
  obtain ⟨cs, hcs⟩ := h.exists_text
  have hblank : segment? [] = none := rfl
  simp [steps_eq, components, layout, hcs, Layout.components, Layout.opening, stepsOf, cut,
    List.filterMap_cons_none hblank]

/-- Paths from the root with the same steps are the same. -/
lemma Rooted.same_of_steps (hp : p.Rooted) (hq : q.Rooted) (h : p.steps = q.steps) :
    p.same q = true := by
  rw [same_iff, hp.components_eq, hq.components_eq, h]

/-- An absolute path starts at the root. -/
lemma rooted_of_isAbsolute (h : p.isAbsolute = true) : p.Rooted := by
  obtain ⟨cs, hcs⟩ := List.head?_eq_some_iff.mp (beq_iff_eq.mp h)
  rw [Rooted, steps, hcs]
  rfl

/-- A path that starts at the root is absolute. -/
lemma Rooted.isAbsolute (h : p.Rooted) : p.isAbsolute = true := by
  rw [Path.isAbsolute, h.components_eq, h, beq_self_eq_true]

/-- Whatever is seen from a path that starts at the root starts there. -/
lemma Rooted.join (hp : p.Rooted) (q : Path) : (p.join q).Rooted := by
  by_cases hq : q.text.toList.head? = some '/'
  · obtain ⟨cs, hcs⟩ := List.head?_eq_some_iff.mp hq
    rw [join_of_head? hq]
    exact rooted_of_text hcs
  · rw [Rooted, steps_join hq, List.head?_append, hp]
    rfl

/-- A plain path starts at the root. -/
lemma Plain.rooted (hp : p.Plain) : p.Rooted := by
  obtain ⟨names, -, rfl⟩ := hp
  exact rooted_of_text (Place.toList_path names)

/-- The directory that holds a plain path other than the root starts at the root. -/
lemma Plain.rooted_parent (hp : p.Plain) (hroot : p ≠ Place.path []) : p.parent.Rooted := by
  obtain ⟨names, hnames, rfl⟩ := hp
  rcases List.eq_nil_or_concat' names with rfl | ⟨init, m, rfl⟩
  · exact absurd rfl hroot
  · rw [Rooted, steps_parent, hnames.steps_path, List.map_append, List.map_singleton,
      ← List.cons_append, List.dropLast_concat, List.head?_cons]

/-! ### Normal forms -/

/-- A walk from the root goes on to the root and names below it. -/
lemma foldl_walk_named {ws : List (List Char)} (hws : ∀ w ∈ ws, '/' ∉ w) {names : Place}
    (h : names.Named) :
    ∃ names' : Place, names'.Named ∧
      (ws.filterMap segment?).foldl walk ((Component.root :: names.map .name).reverse)
        = (Component.root :: names'.map .name).reverse := by
  induction ws generalizing names with
  | nil => exact ⟨names, h, rfl⟩
  | cons w ws ih =>
    have hrest : ∀ v ∈ ws, '/' ∉ v := fun v hv => hws v (List.mem_cons_of_mem w hv)
    cases hw : segment? w with
    | none =>
      rw [List.filterMap_cons_none hw]
      exact ih hrest h
    | some c =>
      rw [List.filterMap_cons_some hw, List.foldl_cons]
      cases c with
      | root => exact absurd hw (segment?_ne_root w)
      | here => exact absurd hw (segment?_ne_here w)
      | name n =>
        have hn : IsName n := isName_of_segment? (hws w List.mem_cons_self) hw
        have hstep : walk ((Component.root :: names.map .name).reverse) (.name n)
            = (Component.root :: (names ++ [n]).map .name).reverse := by
          simp [walk]
        rw [hstep]
        exact ih hrest (h.concat hn)
      | up =>
        have hstep : walk ((Component.root :: names.map .name).reverse) .up
            = (Component.root :: names.dropLast.map .name).reverse := by
          rcases List.eq_nil_or_concat' names with rfl | ⟨init, m, rfl⟩
          · rfl
          · simp [walk]
        rw [hstep]
        exact ih hrest h.dropLast

/-- The normal form of a path that starts at the root is plain. -/
theorem Rooted.plain_normalize (h : p.Rooted) : p.normalize.Plain := by
  obtain ⟨cs, hcs⟩ := h.exists_text
  have hblank : segment? [] = none := rfl
  have hsteps : p.steps = .root :: (cut cs).filterMap segment? := by
    simp [steps_eq, hcs, stepsOf, cut, List.filterMap_cons_none hblank]
  have hslash : ∀ w ∈ cut cs, '/' ∉ w := fun w hw => not_slash_mem_of_mem_cut hw
  obtain ⟨names, hnames, hwalk⟩ := foldl_walk_named hslash Place.named_nil
  have hsettle : settle p.components = .root :: names.map .name := by
    have hfold := congrArg List.reverse hwalk
    rw [← settle_filter, ← steps, hsteps, settle, List.foldl_cons]
    simpa [walk] using hfold
  refine ⟨names, hnames, ?_⟩
  rw [normalize, hsettle]
  exact hnames.ofComponents_eq

end Path

end PageConfig
