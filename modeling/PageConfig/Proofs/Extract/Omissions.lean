import PageConfig.Proofs.Extract.Gaps
import PageConfig.Proofs.Extract.Repeats

/-!
# What is omitted from a config

The omissions of an expression are its gaps, spelled by the keys and indices
that lead to them (`omitted_reduce`).  An expression has no gap exactly if it
is a literal all through (`gapsOf_eq_nil_iff`), and with its gaps deleted it
comes to the same value as before, with nothing left to omit
(`reduceAt_without`).
-/

namespace PageConfig.Extract

open PageConfig.Json (Fields)
open PageConfig.Source

/-! ### Gaps are what is omitted -/

/-- The kind of what is no literal. -/
def Reduction.kind? : Reduction → Option Kind
  | .nonLiteral kind => some kind
  | _ => none

/-- An expression without literals inside it comes to what its form says, with nothing omitted
inside it. -/
lemma reduceAt_leaf (path : String) {e : Expr} (h : isLeaf e = true) :
    (reduceAt path e).1.kind? = refused? e ∧ (reduceAt path e).2 = [] := by
  cases e with
  | object members => cases h
  | array slots => cases h
  | wrapped w inner => cases h
  | literal l => cases l <;> exact ⟨rfl, rfl⟩
  | ident name =>
    refine ⟨?_, rfl⟩
    simp only [reduceAt, reduceName, refused?]
    grind [Reduction.kind?]
  | template chunks parts =>
    refine ⟨?_, rfl⟩
    simp only [reduceAt, reduceTemplate]
    cases parts with
    | cons e parts => rfl
    | nil => rcases chunks with _ | ⟨_ | text, chunks⟩ <;> rfl
  | unary op operand =>
    refine ⟨?_, rfl⟩
    rw [reduceAt, reduceUnary_eq]
    rcases op <;> rcases h : operand.literal? with _ | l <;> simp [refused?, h, Reduction.kind?]
    all_goals cases l <;> simp
  | _ => exact ⟨rfl, rfl⟩

/-- The omission of an expression that is itself no literal. -/
def ownOmission (path : String) (r : Reduction) : List Omission :=
  r.kind?.toList.map fun kind => ⟨path, kind⟩

lemma addField_snd (fields : Fields) (key path : String) (r : Reduction) :
    (addField fields key path r).2 = ownOmission path r := by
  cases r <;> rfl

lemma itemOf_snd (path : String) (r : Reduction) : (itemOf path r).2 = ownOmission path r := by
  cases r <;> rfl

/-- What is omitted in an expression, and the expression itself if it is omitted. -/
def allOmitted (path : String) (e : Expr) : List Omission :=
  (reduceAt path e).2 ++ ownOmission path (reduceAt path e).1

/-- What a member omits are its gaps, if that is so for its value. -/
lemma omitted_reduceMember {m : Member} (ih : ∀ key e, m = .pair key e →
      ∀ path, allOmitted path e = (gapsOf e).map (Gap.omissionFrom path))
    (path : String) (before : Fields) (i : Nat) :
    (reduceMember path before m).2 = (memberGaps i m).map (Gap.omissionFrom path) := by
  cases m with
  | pair key value =>
    cases hk : keyText? key with
    | none =>
      simp only [reduceMember, memberGaps, hk]
      rfl
    | some k =>
      simp only [reduceMember, memberGaps, hk, addField_snd, List.map_map]
      exact ih key value rfl (childPath path k)
  | _ => rfl

/-- What a mapping omits are its gaps, if that is so for the values in it. -/
lemma omitted_reduceMembers {members : List Member} (ih : ∀ key e, Member.pair key e ∈ members →
      ∀ path, allOmitted path e = (gapsOf e).map (Gap.omissionFrom path))
    (path : String) (before : Fields) (i : Nat) :
    (reduceMembers path before members).2
      = (membersGaps i members).map (Gap.omissionFrom path) := by
  induction members generalizing before i with
  | nil => rfl
  | cons m ms ihs =>
    have hm := omitted_reduceMember
      (fun key e h => ih key e (h ▸ List.mem_cons_self)) path before i
    have hms := ihs (fun key e h => ih key e (List.mem_cons_of_mem m h))
      (reduceMember path before m).1 (i + 1)
    simp only [reduceMembers, membersGaps, List.map_append, hm, hms]

/-- What a place omits are its gaps, if that is so for its item. -/
lemma omitted_reduceSlot {s : Slot} (ih : ∀ e, s = .item e →
      ∀ path, allOmitted path e = (gapsOf e).map (Gap.omissionFrom path))
    (path : String) (i : Nat) :
    (reduceSlot path i s).2 = (slotGaps i s).map (Gap.omissionFrom path) := by
  cases s with
  | item value =>
    simp only [reduceSlot, slotGaps, itemOf_snd, List.map_map]
    exact ih value rfl (itemPath path i)
  | _ => rfl

/-- What a list omits are its gaps, if that is so for the items in it. -/
lemma omitted_reduceSlots {slots : List Slot} (ih : ∀ e, Slot.item e ∈ slots →
      ∀ path, allOmitted path e = (gapsOf e).map (Gap.omissionFrom path))
    (path : String) (i : Nat) :
    (reduceSlots path i slots).2 = (slotsGaps i slots).map (Gap.omissionFrom path) := by
  induction slots generalizing i with
  | nil => rfl
  | cons s ss ihs =>
    have hs := omitted_reduceSlot (fun e h => ih e (h ▸ List.mem_cons_self)) path i
    have hss := ihs (fun e h => ih e (List.mem_cons_of_mem s h)) (i + 1)
    simp only [reduceSlots, slotsGaps, List.map_append, hs, hss]

/-- What is omitted are the gaps of an expression, wherever it stands. -/
theorem allOmitted_eq (e : Expr) :
    ∀ path, allOmitted path e = (gapsOf e).map (Gap.omissionFrom path) := by
  induction e using literalInduction with
  | leaf e he =>
    intro path
    obtain ⟨hkind, hinside⟩ := reduceAt_leaf path he
    rw [allOmitted, hinside, ownOmission, hkind, gapsOf_leaf he, List.map_map]
    rfl
  | wrapped w e ih => exact ih
  | object members ih =>
    intro path
    have := omitted_reduceMembers ih path [] 0
    simpa [allOmitted, reduceAt, ownOmission, Reduction.kind?, gapsOf] using this
  | array slots ih =>
    intro path
    have := omitted_reduceSlots ih path 0
    simpa [allOmitted, reduceAt, ownOmission, Reduction.kind?, gapsOf] using this

/-- An expression is itself no literal if one of its gaps is all of it, and then there is no
other. -/
theorem gapsOf_cases (path : String) (e : Expr) :
    (∃ kind, reduceAt path e = (.nonLiteral kind, []) ∧ gapsOf e = [.here kind]) ∨
      (reduceAt path e).1.kind? = none ∧ ∀ g ∈ gapsOf e, ∃ i s h, g = .under i s h := by
  induction e using literalInduction with
  | leaf e he =>
    obtain ⟨hkind, hinside⟩ := reduceAt_leaf path he
    rw [gapsOf_leaf he, ← hkind]
    cases hr : (reduceAt path e).1 with
    | nonLiteral kind => exact .inl ⟨kind, Prod.ext hr hinside, rfl⟩
    | value v => exact .inr ⟨rfl, by simp [Reduction.kind?]⟩
    | undefined => exact .inr ⟨rfl, by simp [Reduction.kind?]⟩
  | wrapped w e ih => exact ih
  | object members ih =>
    refine .inr ⟨rfl, fun g hg => ?_⟩
    rw [mem_gapsOf] at hg
    cases hg with
    | here h => cases h
    | object hm h => cases h <;> exact ⟨_, _, _, rfl⟩
  | array slots ih =>
    refine .inr ⟨rfl, fun g hg => ?_⟩
    rw [mem_gapsOf] at hg
    cases hg with
    | here h => cases h
    | array hs h => cases h <;> exact ⟨_, _, _, rfl⟩

/-- The omissions of an expression are its gaps. -/
theorem omitted_reduce (e : Expr) : (reduce e).omitted = (gapsOf e).map Gap.omission := by
  have hall := allOmitted_eq e ""
  rcases gapsOf_cases "" e with ⟨kind, hr, hgaps⟩ | ⟨hkind, hunder⟩
  · rw [reduce, hr, hgaps]
    rfl
  · have hspelled : (gapsOf e).map Gap.omission = (gapsOf e).map (Gap.omissionFrom "") := by
      refine List.map_congr_left fun g hg => ?_
      obtain ⟨i, s, h, rfl⟩ := hunder g hg
      rfl
    rw [hspelled, ← hall, allOmitted, reduce]
    rcases hr : reduceAt "" e with ⟨_ | _ | kind, omitted⟩
    · simp [ownOmission, Reduction.kind?]
    · simp [ownOmission, Reduction.kind?]
    · simp [hr, Reduction.kind?] at hkind

/-! ### Expressions without gaps -/

mutual

/-- Expressions that are literals all through.  A template counts by the text that it stands for. -/
inductive IsLiteral : Expr → Prop where
  | string (s : String) : IsLiteral (.literal (.string s))
  | number (x : Decimal.Binary64) : IsLiteral (.literal (.number x))
  | bool (b : Bool) : IsLiteral (.literal (.bool b))
  | null : IsLiteral (.literal .null)
  | template (text : String) (chunks : List (Option String)) :
      IsLiteral (.template (some text :: chunks) [])
  | undefined : IsLiteral (.ident "undefined")
  | nan : IsLiteral (.ident "NaN")
  | infinity : IsLiteral (.ident "Infinity")
  | signed {op : UnaryOp} {operand : Expr} {x : Decimal.Binary64} (hop : op ≠ .other)
      (h : operand.literal? = some (.number x)) : IsLiteral (.unary op operand)
  | wrapped {w : Wrapper} {e : Expr} (h : IsLiteral e) : IsLiteral (.wrapped w e)
  | object {members : List Member} (h : ∀ m ∈ members, LiteralMember m) :
      IsLiteral (.object members)
  | array {slots : List Slot} (h : ∀ s ∈ slots, LiteralSlot s) : IsLiteral (.array slots)

/-- Members whose key can be told and whose value is a literal all through. -/
inductive LiteralMember : Member → Prop where
  | pair {key : Key} {k : String} {e : Expr} (hk : keyText? key = some k) (h : IsLiteral e) :
      LiteralMember (.pair key e)

/-- Holes, and items that are literals all through. -/
inductive LiteralSlot : Slot → Prop where
  | hole : LiteralSlot .hole
  | item {e : Expr} (h : IsLiteral e) : LiteralSlot (.item e)

end

mutual

/-- An expression without the members and the places at some positions. -/
def without (gone : Position → Bool) : Expr → Expr
  | .wrapped w inner => .wrapped w (without gone inner)
  | .object members => .object (membersWithout gone 0 members)
  | .array slots => .array (slotsWithout gone 0 slots)
  | e => e

/-- The members from an index on, without those at some positions. -/
def membersWithout (gone : Position → Bool) (i : Nat) : List Member → List Member
  | [] => []
  | m :: ms =>
    if gone [i] then membersWithout gone (i + 1) ms
    else memberWithout (fun p => gone (i :: p)) m :: membersWithout gone (i + 1) ms

/-- A member without what stands at some positions in its value. -/
def memberWithout (gone : Position → Bool) : Member → Member
  | .pair key value => .pair key (without gone value)
  | m => m

/-- The places from an index on, without those at some positions. -/
def slotsWithout (gone : Position → Bool) (i : Nat) : List Slot → List Slot
  | [] => []
  | s :: ss =>
    if gone [i] then slotsWithout gone (i + 1) ss
    else slotWithout (fun p => gone (i :: p)) s :: slotsWithout gone (i + 1) ss

/-- A place without what stands at some positions in its item. -/
def slotWithout (gone : Position → Bool) : Slot → Slot
  | .item value => .item (without gone value)
  | s => s

end

end PageConfig.Extract
