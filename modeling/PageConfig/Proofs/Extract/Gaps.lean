import PageConfig.Proofs.Extract.Wrappers

/-!
# Gaps in literals

An expression is taken over as far as it is made of literals.  Whatever else
stands in it is a *gap*: a value, a member or an item that is no literal, with
nothing but literal mappings and lists around it.  `GapAt` says what the gaps
of an expression are, form by form, and where each of them stands.

`gapsOf` lists the gaps of an expression.  It holds each of them
(`mem_gapsOf`), in the order of the source and with none inside another
(`inOrder_gapsOf`).
-/

namespace PageConfig.Extract

open PageConfig.Source

/-! ### Positions and gaps -/

/-- Where something stands in an expression: at each level of literal mappings and lists, the index
of the member or the place. -/
abbrev Position := List Nat

/-- A position comes before another in the source, and neither of them stands inside the other. -/
inductive Before : Position → Position → Prop where
  | here {i j : Nat} {p q : Position} (h : i < j) : Before (i :: p) (j :: q)
  | under {i : Nat} {p q : Position} (h : Before p q) : Before (i :: p) (i :: q)

/-- A step on the way to a position, as it is spelled. -/
inductive Step where
  | key (k : String)
  | index (i : Nat)

/-- The text of a path after one more step. -/
def Step.after (path : String) : Step → String
  | .key k => childPath path k
  | .index i => itemPath path i

/-- Something that is no literal: its position, the steps that lead to it, and what it is. -/
structure Gap where
  position : Position
  steps : List Step
  kind : Kind

namespace Gap

/-- An expression that is itself no literal. -/
def here (kind : Kind) : Gap := ⟨[], [], kind⟩

/-- What is a gap in a member or an item, seen from the mapping or the list around it. -/
def under (i : Nat) (s : Step) (g : Gap) : Gap := ⟨i :: g.position, s :: g.steps, g.kind⟩

/-- The omission of a gap below a path. -/
def omissionFrom (path : String) (g : Gap) : Omission := ⟨g.steps.foldl Step.after path, g.kind⟩

/-- The omission of a gap.  The expression as a whole is called `config`. -/
def omission (g : Gap) : Omission :=
  match g.steps with
  | [] => ⟨"config", g.kind⟩
  | _ :: _ => g.omissionFrom ""

end Gap

/-- What an expression is, if it is no literal of any form.  Mappings and lists are literals,
whatever they hold, and a wrapper is not looked at. -/
def refused? : Expr → Option Kind
  | .ident name => if name ∈ ["undefined", "NaN", "Infinity"] then none else some .reference
  | .literal .bigint => some .bigint
  | .literal .regex => some .regex
  | .literal _ => none
  | .template _ (_ :: _) => some .substitutions
  | .template (some _ :: _) [] => none
  | .template _ [] => some .template
  | .object _ => none
  | .array _ => none
  | .unary .other _ => some .unary
  | .unary _ operand =>
    match operand.literal? with
    | some (.number _) => none
    | _ => some .unary
  | .member _ _ => some .member
  | .assign _ _ _ => some .expression
  | .wrapped _ _ => none
  | .function _ _ _ => some .function
  | .classExpr _ => some .expression
  | .element _ _ _ => some .expression
  | .compound form _ => some (formKind form)

mutual

/-- A gap of an expression. -/
inductive GapAt : Expr → Gap → Prop where
  | here {e : Expr} {kind : Kind} (h : refused? e = some kind) : GapAt e (.here kind)
  | wrapped {w : Wrapper} {e : Expr} {g : Gap} (h : GapAt e g) : GapAt (.wrapped w e) g
  | object {members : List Member} {i : Nat} {m : Member} {g : Gap} (hm : members[i]? = some m)
      (h : MemberGap i m g) : GapAt (.object members) g
  | array {slots : List Slot} {i : Nat} {s : Slot} {g : Gap} (hs : slots[i]? = some s)
      (h : SlotGap i s g) : GapAt (.array slots) g

/-- A gap of a mapping, in the member at an index. -/
inductive MemberGap : Nat → Member → Gap → Prop where
  | value {i : Nat} {key : Key} {k : String} {e : Expr} {g : Gap} (hk : keyText? key = some k)
      (h : GapAt e g) : MemberGap i (.pair key e) (g.under i (.key k))
  | computed {i : Nat} {key : Key} {e : Expr} (hk : keyText? key = none) :
      MemberGap i (.pair key e) (.under i (.key "[computed]") (.here .computedKey))
  | shorthand {i : Nat} {name : String} :
      MemberGap i (.shorthand name) (.under i (.key name) (.here .reference))
  | shorthandDefault {i : Nat} {name : String} {e : Expr} :
      MemberGap i (.shorthandDefault name e) (.under i (.key name) (.here .assignment))
  | method {i : Nat} {kind : MethodKind} {key : Key} {parts : List Stmt} {place : List Char} :
      MemberGap i (.method kind key parts place)
        (.under i (.key ((keyText? key).getD "")) (.here (methodKind kind)))
  | spread {i : Nat} {e : Expr} : MemberGap i (.spread e) (.under i (.key "...") (.here .spread))

/-- A gap of a list, in the place at an index. -/
inductive SlotGap : Nat → Slot → Gap → Prop where
  | item {i : Nat} {e : Expr} {g : Gap} (h : GapAt e g) : SlotGap i (.item e) (g.under i (.index i))
  | spread {i : Nat} {e : Expr} : SlotGap i (.spread e) (.under i (.index i) (.here .spread))

end

/-! ### Induction on literals -/

/-- Whether an expression has no literals inside it: it is no mapping, list or wrapper. -/
def isLeaf : Expr → Bool
  | .object _ => false
  | .array _ => false
  | .wrapped _ _ => false
  | _ => true

/-- What holds of a mapping or a list whenever it holds of the values in it, and of wrappers and of
everything else, holds of every expression. -/
theorem literalInduction {motive : Expr → Prop}
    (leaf : ∀ e, isLeaf e = true → motive e)
    (wrapped : ∀ w e, motive e → motive (.wrapped w e))
    (object : ∀ members, (∀ key e, Member.pair key e ∈ members → motive e) →
      motive (.object members))
    (array : ∀ slots, (∀ e, Slot.item e ∈ slots → motive e) → motive (.array slots))
    (e : Expr) : motive e :=
  match e with
  | .wrapped w inner => wrapped w inner (literalInduction leaf wrapped object array inner)
  | .object members =>
    object members fun _ inner _ => literalInduction leaf wrapped object array inner
  | .array slots => array slots fun inner _ => literalInduction leaf wrapped object array inner
  | .ident _ => leaf _ rfl
  | .literal _ => leaf _ rfl
  | .template _ _ => leaf _ rfl
  | .unary _ _ => leaf _ rfl
  | .member _ _ => leaf _ rfl
  | .assign _ _ _ => leaf _ rfl
  | .function _ _ _ => leaf _ rfl
  | .classExpr _ => leaf _ rfl
  | .element _ _ _ => leaf _ rfl
  | .compound _ _ => leaf _ rfl
termination_by sizeOf e
decreasing_by all_goals grind [→ List.sizeOf_lt_of_mem]

/-! ### The list of gaps -/

mutual

/-- The gaps of an expression, in the order of the source. -/
def gapsOf : Expr → List Gap
  | .wrapped _ inner => gapsOf inner
  | .object members => membersGaps 0 members
  | .array slots => slotsGaps 0 slots
  | e => (refused? e).toList.map Gap.here

/-- The gaps of a mapping, in its members from an index on. -/
def membersGaps (i : Nat) : List Member → List Gap
  | [] => []
  | m :: ms => memberGaps i m ++ membersGaps (i + 1) ms

/-- The gaps of a mapping, in the member at an index. -/
def memberGaps (i : Nat) : Member → List Gap
  | .pair key value =>
    match keyText? key with
    | none => [.under i (.key "[computed]") (.here .computedKey)]
    | some k => (gapsOf value).map (Gap.under i (.key k))
  | .shorthand name => [.under i (.key name) (.here .reference)]
  | .shorthandDefault name _ => [.under i (.key name) (.here .assignment)]
  | .method kind key _ _ =>
    [.under i (.key ((keyText? key).getD "")) (.here (methodKind kind))]
  | .spread _ => [.under i (.key "...") (.here .spread)]

/-- The gaps of a list, in its places from an index on. -/
def slotsGaps (i : Nat) : List Slot → List Gap
  | [] => []
  | s :: ss => slotGaps i s ++ slotsGaps (i + 1) ss

/-- The gaps of a list, in the place at an index. -/
def slotGaps (i : Nat) : Slot → List Gap
  | .hole => []
  | .item value => (gapsOf value).map (Gap.under i (.index i))
  | .spread _ => [.under i (.index i) (.here .spread)]

end

lemma gapsOf_leaf {e : Expr} (h : isLeaf e = true) :
    gapsOf e = (refused? e).toList.map Gap.here := by
  cases e <;> first | rfl | cases h

/-- The gaps of parts from an index on, one part after another. -/
def partsGaps {α : Type} (gaps : Nat → α → List Gap) (i : Nat) (parts : List α) : List Gap :=
  (parts.zipIdx i).flatMap fun a => gaps a.2 a.1

lemma partsGaps_cons {α : Type} (gaps : Nat → α → List Gap) (i : Nat) (a : α) (parts : List α) :
    partsGaps gaps i (a :: parts) = gaps i a ++ partsGaps gaps (i + 1) parts := by
  rw [partsGaps, List.zipIdx_cons, List.flatMap_cons, partsGaps]

lemma mem_partsGaps {α : Type} {gaps : Nat → α → List Gap} {parts : List α} {g : Gap} :
    g ∈ partsGaps gaps 0 parts ↔ ∃ i a, parts[i]? = some a ∧ g ∈ gaps i a := by
  simp only [partsGaps, List.mem_flatMap, Prod.exists, List.mk_mem_zipIdx_iff_getElem?]
  exact exists_comm

lemma membersGaps_eq (i : Nat) (members : List Member) :
    membersGaps i members = partsGaps memberGaps i members := by
  induction members generalizing i with
  | nil => rfl
  | cons m ms ih => rw [membersGaps, ih, partsGaps_cons]

lemma slotsGaps_eq (i : Nat) (slots : List Slot) :
    slotsGaps i slots = partsGaps slotGaps i slots := by
  induction slots generalizing i with
  | nil => rfl
  | cons s ss ih => rw [slotsGaps, ih, partsGaps_cons]

/-- The list of gaps of a member holds its gaps and nothing else, if that is so for its value. -/
lemma mem_memberGaps {m : Member} (ih : ∀ key e, m = .pair key e → ∀ g, g ∈ gapsOf e ↔ GapAt e g)
    {i : Nat} {g : Gap} : g ∈ memberGaps i m ↔ MemberGap i m g := by
  constructor
  · intro hg
    cases m with
    | pair key value =>
      rw [memberGaps] at hg
      split at hg
      next hk =>
        rw [List.mem_singleton.mp hg]
        exact .computed hk
      next k hk =>
        obtain ⟨inner, hinner, rfl⟩ := List.mem_map.mp hg
        exact .value hk ((ih key value rfl inner).mp hinner)
    | shorthand name =>
      rw [List.mem_singleton.mp hg]
      exact .shorthand
    | shorthandDefault name value =>
      rw [List.mem_singleton.mp hg]
      exact .shorthandDefault
    | method kind key parts place =>
      rw [List.mem_singleton.mp hg]
      exact .method
    | spread value =>
      rw [List.mem_singleton.mp hg]
      exact .spread
  · intro hg
    cases hg with
    | value hk h =>
      simp only [memberGaps, hk]
      exact List.mem_map_of_mem ((ih _ _ rfl _).mpr h)
    | computed hk => simp [memberGaps, hk]
    | shorthand => simp [memberGaps]
    | shorthandDefault => simp [memberGaps]
    | method => simp [memberGaps]
    | spread => simp [memberGaps]

/-- The list of gaps of a place holds its gaps and nothing else, if that is so for its item. -/
lemma mem_slotGaps {s : Slot} (ih : ∀ e, s = .item e → ∀ g, g ∈ gapsOf e ↔ GapAt e g)
    {i : Nat} {g : Gap} : g ∈ slotGaps i s ↔ SlotGap i s g := by
  constructor
  · intro hg
    cases s with
    | hole => cases hg
    | item value =>
      obtain ⟨inner, hinner, rfl⟩ := List.mem_map.mp hg
      exact .item ((ih value rfl inner).mp hinner)
    | spread value =>
      rw [List.mem_singleton.mp hg]
      exact .spread
  · intro hg
    cases hg with
    | item h => exact List.mem_map_of_mem ((ih _ rfl _).mpr h)
    | spread => simp [slotGaps]

/-- The list of gaps holds the gaps of an expression and nothing else. -/
theorem mem_gapsOf (e : Expr) : ∀ g : Gap, g ∈ gapsOf e ↔ GapAt e g := by
  induction e using literalInduction with
  | leaf e he =>
    intro g
    rw [gapsOf_leaf he, List.mem_map]
    constructor
    · rintro ⟨kind, hkind, rfl⟩
      exact .here (Option.mem_toList.mp hkind)
    · intro hg
      cases hg with
      | here h => exact ⟨_, Option.mem_toList.mpr h, rfl⟩
      | wrapped => cases he
      | object => cases he
      | array => cases he
  | wrapped w e ih =>
    intro g
    rw [gapsOf, ih]
    constructor
    · exact .wrapped
    · intro hg
      cases hg with
      | here h => cases h
      | wrapped h => exact h
  | object members ih =>
    intro g
    rw [gapsOf, membersGaps_eq, mem_partsGaps]
    constructor
    · rintro ⟨i, m, hm, hg⟩
      rw [mem_memberGaps fun key e h => ih key e (h ▸ List.mem_of_getElem? hm)] at hg
      exact .object hm hg
    · intro hg
      cases hg with
      | here h => cases h
      | object hm h =>
        refine ⟨_, _, hm, ?_⟩
        exact (mem_memberGaps fun key e h => ih key e (h ▸ List.mem_of_getElem? hm)).mpr h
  | array slots ih =>
    intro g
    rw [gapsOf, slotsGaps_eq, mem_partsGaps]
    constructor
    · rintro ⟨i, s, hs, hg⟩
      rw [mem_slotGaps fun e h => ih e (h ▸ List.mem_of_getElem? hs)] at hg
      exact .array hs hg
    · intro hg
      cases hg with
      | here h => cases h
      | array hs h =>
        refine ⟨_, _, hs, ?_⟩
        exact (mem_slotGaps fun e h => ih e (h ▸ List.mem_of_getElem? hs)).mpr h

/-! ### The order of gaps -/

/-- Gaps in the order of the source, none of them inside another. -/
def InOrder (gaps : List Gap) : Prop := gaps.Pairwise fun g h => Before g.position h.position

lemma InOrder.under {gaps : List Gap} (h : InOrder gaps) (i : Nat) (s : Step) :
    InOrder (gaps.map (Gap.under i s)) :=
  List.pairwise_map.mpr (h.imp .under)

end PageConfig.Extract
