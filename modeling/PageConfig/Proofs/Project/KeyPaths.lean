import PageConfig.Project.BuildConfig
import PageConfig.Proofs.Extract.Gaps

/-!
# Paths of keys as text

An omission names its place by a text: keys with a dot in front of each but the
first, and indices in brackets.  Whether such a place lies on a path of keys is
decided on the text alone (`leadsThrough`).  That is sound for identifiers.
Dots and brackets end a word, and no identifier has them, so two texts run
through the same words up to where one of them ends (`leadsThrough_append`),
and nothing but the keys themselves can make them agree
(`leadsThrough_omission`).
-/

namespace PageConfig

namespace Extract

/-- What a step adds to the text of a path. -/
def Step.suffix : Step → List Char
  | .key k => '.' :: k.toList
  | .index i => '[' :: (toString i).toList ++ [']']

variable {path : String}

/-- One more step below something. -/
lemma Step.toList_after (h : path ≠ "") (s : Step) :
    (s.after path).toList = path.toList ++ s.suffix := by
  cases s with
  | key k =>
    have hpath : path.isEmpty = false := by simpa using h
    simp [Step.after, childPath, hpath, Step.suffix]
  | index i => simp [Step.after, itemPath, Step.suffix]

/-- Steps below something are written one after another. -/
lemma toList_foldl_after (h : path ≠ "") (steps : List Step) :
    (steps.foldl Step.after path).toList = path.toList ++ steps.flatMap Step.suffix := by
  induction steps generalizing path with
  | nil => simp
  | cons s steps ih =>
    have hafter : s.after path ≠ "" := by
      rw [ne_eq, ← String.toList_eq_nil_iff, s.toList_after h]
      cases s <;> simp [Step.suffix]
    rw [List.foldl_cons, ih hafter, s.toList_after h, List.flatMap_cons, List.append_assoc]

end Extract

namespace Project

open PageConfig.Extract (Gap Step toList_foldl_after)
open PageConfig.Text (isNameStart isNamePart)

/-! ### Words -/

/-- A plain identifier. -/
structure IsIdentifier (s : String) : Prop where
  opens : s.toList.head?.any isNameStart = true
  inner : ∀ c ∈ s.toList.tail, isNamePart c = true

instance (s : String) : Decidable (IsIdentifier s) :=
  decidable_of_iff (s.toList.head?.any isNameStart = true ∧ s.toList.tail.all isNamePart = true)
    ⟨fun ⟨hopens, hinner⟩ => ⟨hopens, List.all_eq_true.mp hinner⟩,
      fun h => ⟨h.opens, List.all_eq_true.mpr h.inner⟩⟩

/-- Characters that end a word of a path. -/
def EndsWord (c : Char) : Prop := c = '.' ∨ c = '['

/-- Characters that make up one word of a path. -/
def IsWord (w : List Char) : Prop := ∀ c ∈ w, ¬ EndsWord c

/-- A text between two words of a path, or after the last one. -/
def AtWordEnd (cs : List Char) : Prop := ∀ c ∈ cs.head?, EndsWord c

variable {k : String}

lemma IsIdentifier.ne_empty (h : IsIdentifier k) : k ≠ "" := by
  rintro rfl
  exact absurd h.opens (by decide)

/-- An identifier is one word. -/
lemma IsIdentifier.isWord (h : IsIdentifier k) : IsWord k.toList := by
  have hopens := h.opens
  have hinner := h.inner
  intro c hc hend
  cases hk : k.toList with
  | nil => simp [hk] at hc
  | cons d cs =>
    rw [hk] at hc hopens hinner
    rw [List.head?_cons, Option.any_some] at hopens
    rcases List.mem_cons.mp hc with rfl | hc
    · rcases hend with rfl | rfl <;> exact absurd hopens (by decide)
    · rcases hend with rfl | rfl <;> exact absurd (hinner _ hc) (by decide)

lemma IsIdentifier.ne_dots (h : IsIdentifier k) : k ≠ "..." := by
  rintro rfl
  exact absurd h.opens (by decide)

/-- A step ends the word before it. -/
lemma atWordEnd_suffixes (steps : List Step) : AtWordEnd (steps.flatMap Step.suffix) := by
  intro c hc
  cases steps with
  | nil => cases hc
  | cons s steps =>
    cases s with
    | key k =>
      obtain rfl : '.' = c := by simpa [Step.suffix] using hc
      exact .inl rfl
    | index i =>
      obtain rfl : '[' = c := by simpa [Step.suffix] using hc
      exact .inr rfl

/-! ### Reading along two texts -/

lemma leadsThrough_cons (c d : Char) (as bs : List Char) :
    leadsThrough (c :: as) (d :: bs) = (d == c && leadsThrough as bs) := by
  simp [leadsThrough, List.isPrefixOf, Bool.and_assoc]

lemma leadsThrough_nil_cons (d : Char) (bs : List Char) : leadsThrough [] (d :: bs) = false := rfl

lemma leadsThrough_nil {as : List Char} : leadsThrough as [] = true ↔ AtWordEnd as := by
  cases as with
  | nil => simp [leadsThrough, AtWordEnd]
  | cons c as => simp [leadsThrough, AtWordEnd, EndsWord, List.isPrefixOf]

/-- **Word by word**: a text leads through another one that starts with a word just if it starts
with the same word, and leads on. -/
theorem leadsThrough_append {w v as bs : List Char} (hw : IsWord w) (hv : IsWord v)
    (has : AtWordEnd as) (hbs : AtWordEnd bs) :
    leadsThrough (w ++ as) (v ++ bs) = true ↔ w = v ∧ leadsThrough as bs = true := by
  induction w generalizing v with
  | nil =>
    cases v with
    | nil => simp
    | cons d v =>
      -- the one word has ended, and the other goes on
      have hd : ¬ EndsWord d := hv d List.mem_cons_self
      cases as with
      | nil => simp [leadsThrough_nil_cons]
      | cons a as =>
        have ha : EndsWord a := has a rfl
        have hne : d ≠ a := fun h => hd (h ▸ ha)
        simp [leadsThrough_cons, hne]
  | cons c w ih =>
    have hc : ¬ EndsWord c := hw c List.mem_cons_self
    cases v with
    | nil =>
      cases bs with
      | nil => simp [leadsThrough_nil, AtWordEnd, hc]
      | cons b bs =>
        have hb : EndsWord b := hbs b rfl
        have hne : b ≠ c := fun h => hc (h ▸ hb)
        simp [leadsThrough_cons, hne]
    | cons d v =>
      have hw' : IsWord w := fun x hx => hw x (List.mem_cons_of_mem c hx)
      have hv' : IsWord v := fun x hx => hv x (List.mem_cons_of_mem d hx)
      simp only [List.cons_append, leadsThrough_cons, Bool.and_eq_true, beq_iff_eq, ih hw' hv',
        List.cons.injEq, eq_comm (a := d), and_assoc]

/-! ### Places and paths of keys -/

/-- Steps that can be told apart by their text, up to the first index: a spread stands last, and all
other keys are identifiers. -/
inductive Legible : List Step → Prop where
  | nil : Legible []
  | key {k : String} {steps : List Step} (hk : IsIdentifier k) (h : Legible steps) :
      Legible (.key k :: steps)
  | spread : Legible [.key "..."]
  | index {i : Nat} {steps : List Step} : Legible (.index i :: steps)

variable {keys : List String} {steps : List Step}

/-- The text of steps leads through that of keys just if the steps start with the keys. -/
lemma leadsThrough_suffixes (h : Legible steps) (hkeys : ∀ k ∈ keys, IsIdentifier k) :
    leadsThrough (steps.flatMap Step.suffix) ((keys.map Step.key).flatMap Step.suffix) = true
      ↔ keys.map Step.key <+: steps := by
  induction keys generalizing steps with
  | nil => simp [leadsThrough_nil, atWordEnd_suffixes]
  | cons k keys ih =>
    have hk : IsIdentifier k := hkeys k List.mem_cons_self
    have hrest : ∀ j ∈ keys, IsIdentifier j := fun j hj => hkeys j (List.mem_cons_of_mem k hj)
    simp only [List.map_cons, List.flatMap_cons, Step.suffix, List.cons_append]
    cases h with
    | nil => simp [leadsThrough_nil_cons]
    | index => simp [Step.suffix, leadsThrough_cons]
    | spread =>
      obtain ⟨c, cs, hcs⟩ := List.exists_cons_of_ne_nil
        (mt String.toList_eq_nil_iff.mp hk.ne_empty)
      have hc : c ≠ '.' := fun h => hk.isWord c (by simp [hcs]) (.inl h)
      simp [Step.suffix, leadsThrough_cons, hcs, hc, hk.ne_dots]
    | @key j steps hj h =>
      simp only [List.flatMap_cons, Step.suffix, List.cons_append, leadsThrough_cons,
        beq_self_eq_true, Bool.true_and, List.cons_prefix_cons, Step.key.injEq]
      rw [leadsThrough_append hj.isWord hk.isWord (atWordEnd_suffixes _) (atWordEnd_suffixes _),
        ih h hrest, String.toList_inj, eq_comm]

/-- The text of a path of keys, with a dot in front. -/
lemma dot_cons_toList (hne : keys ≠ []) :
    '.' :: (".".intercalate keys).toList = (keys.map Step.key).flatMap Step.suffix := by
  induction keys with
  | nil => exact absurd rfl hne
  | cons k keys ih =>
    cases keys with
    | nil => simp [Step.suffix]
    | cons j keys =>
      have hrest := ih (List.cons_ne_nil j keys)
      rw [List.map_cons, List.flatMap_cons, ← hrest, String.intercalate_cons_cons,
        String.toList_append, String.toList_append]
      simp [Step.suffix]

/-- The text of the place of a gap, with a dot in front. -/
lemma dot_cons_toList_omission {g : Gap} (hk : k ≠ "") (hg : g.steps = .key k :: steps) :
    '.' :: g.omission.path.toList = g.steps.flatMap Step.suffix := by
  have hpath : g.omission.path = steps.foldl Step.after k := by
    simp [Gap.omission, Gap.omissionFrom, hg, Step.after, Extract.childPath]
  rw [hpath, toList_foldl_after hk, hg]
  rfl

/-- **The text test never confuses two places**: the omission of a gap leads through a path of keys
just if the way to the gap does. -/
theorem leadsThrough_omission {g : Gap} (h : Legible g.steps) (hg : g.steps = .key k :: steps)
    (hne : keys ≠ []) (hkeys : ∀ k ∈ keys, IsIdentifier k) :
    leadsThrough g.omission.path.toList (".".intercalate keys).toList = true
      ↔ keys.map Step.key <+: g.steps := by
  have hk : k ≠ "" := by
    rw [hg] at h
    cases h with
    | key hk _ => exact hk.ne_empty
    | spread => decide
  have hdot := leadsThrough_cons '.' '.' g.omission.path.toList (".".intercalate keys).toList
  rw [beq_self_eq_true, Bool.true_and, dot_cons_toList hne, dot_cons_toList_omission hk hg] at hdot
  rw [← hdot]
  exact leadsThrough_suffixes h hkeys

end Project

end PageConfig
