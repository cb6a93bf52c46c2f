import PageConfig.Extract.Reduce
import PageConfig.Proofs.Json.Fields

/-!
# Keys that are defined again

The members of an object literal define keys, and one key may be defined more
than once.  A definition that comes to a value writes the value; one that is
undefined or no literal writes nothing and takes nothing back.  So the mapping
holds for each key the last value that was written for it
(`get?_reduceMembers`).

That is what the last definition says as long as the last definition comes to a
value.  When it does not, a value from an earlier definition stays in the
mapping, although it is gone when the program runs.
-/

namespace PageConfig

open PageConfig.Json (Value Fields)

namespace Extract

open PageConfig.Source

/-- The value that an expression comes to, if it comes to one. -/
def Reduction.value? : Reduction → Option Value
  | .value v => some v
  | .undefined => none
  | .nonLiteral _ => none

/-- What an expression comes to, wherever it stands. -/
def reduction (e : Expr) : Reduction := (reduceAt "" e).1

end Extract

namespace Source.Member

open PageConfig.Extract

/-- The key that a member defines, if it defines one that can be told. -/
def key? : Member → Option String
  | .pair key _ => keyText? key
  | .shorthand name => some name
  | .shorthandDefault name _ => some name
  | .method _ key _ _ => keyText? key
  | .spread _ => none

/-- The value that a member gives its key, if it gives one. -/
def value? : Member → Option Value
  | .pair _ e => (reduction e).value?
  | .shorthand _ => none
  | .shorthandDefault _ _ => none
  | .method _ _ _ _ => none
  | .spread _ => none

end Source.Member

namespace Extract

open PageConfig.Source

/-! ### Values do not depend on where they stand -/

/-- The path of a field is of use for its omission only. -/
lemma addField_fst (fields : Fields) (key path : String) (r : Reduction) :
    (addField fields key path r).1 = (r.value?.map (fields.insert key)).getD fields := by
  cases r <;> rfl

/-- The path of an item is of use for its omission only. -/
lemma itemOf_fst (path path' : String) (r : Reduction) :
    (itemOf path r).1 = (itemOf path' r).1 := by
  cases r <;> rfl

mutual

/-- The path of an expression is of use for its omissions only. -/
lemma reduceAt_fst (path path' : String) : ∀ e : Expr, (reduceAt path e).1 = (reduceAt path' e).1
  | .wrapped _ inner => by rw [reduceAt, reduceAt, reduceAt_fst path path' inner]
  | .object members => by simp only [reduceAt, reduceMembers_fst path path' [] members]
  | .array slots => by simp only [reduceAt, reduceSlots_fst path path' 0 slots]
  | .literal _ => rfl
  | .template _ _ => rfl
  | .unary _ _ => rfl
  | .ident _ => rfl
  | .member _ _ => rfl
  | .function _ _ _ => rfl
  | .compound _ _ => rfl
  | .assign _ _ _ => rfl
  | .classExpr _ => rfl
  | .element _ _ _ => rfl

/-- The path of a mapping is of use for its omissions only. -/
lemma reduceMembers_fst (path path' : String) (before : Fields) : ∀ members : List Member,
    (reduceMembers path before members).1 = (reduceMembers path' before members).1
  | [] => rfl
  | m :: ms => by
    simp only [reduceMembers, reduceMember_fst path path' before m]
    exact reduceMembers_fst path path' _ ms

/-- The path of a member is of use for its omissions only. -/
lemma reduceMember_fst (path path' : String) (before : Fields) : ∀ m : Member,
    (reduceMember path before m).1 = (reduceMember path' before m).1
  | .pair key e => by
    cases hkey : keyText? key with
    | none => simp only [reduceMember, hkey]
    | some k =>
      have he := reduceAt_fst (childPath path k) (childPath path' k) e
      simp only [reduceMember, hkey, he, addField_fst]
  | .shorthand _ => rfl
  | .shorthandDefault _ _ => rfl
  | .method _ _ _ _ => rfl
  | .spread _ => rfl

/-- The path of a list is of use for its omissions only. -/
lemma reduceSlots_fst (path path' : String) (index : Nat) : ∀ slots : List Slot,
    (reduceSlots path index slots).1 = (reduceSlots path' index slots).1
  | [] => rfl
  | s :: ss => by
    simp only [reduceSlots, reduceSlot_fst path path' index s,
      reduceSlots_fst path path' (index + 1) ss]

/-- The path of a place is of use for its omissions only. -/
lemma reduceSlot_fst (path path' : String) (index : Nat) : ∀ s : Slot,
    (reduceSlot path index s).1 = (reduceSlot path' index s).1
  | .hole => rfl
  | .item e => by
    have he := reduceAt_fst (itemPath path index) (itemPath path' index) e
    simp only [reduceSlot, he]
    exact itemOf_fst _ _ _
  | .spread _ => rfl

end

/-! ### The last value of a key -/

/-- The definitions of a key, in order. -/
def definitions (key : String) (members : List Member) : List Member :=
  members.filter fun m => m.key? = some key

/-- The values that are written for a key, in order. -/
def written (key : String) (members : List Member) : List Value :=
  (definitions key members).filterMap Member.value?

/-- The value that a member writes for a key, if it writes one. -/
def writtenBy (key : String) (m : Member) : Option Value :=
  if m.key? = some key then m.value? else none

/-- What one member leaves a key with: the value that it writes, or the value from before. -/
lemma get?_reduceMember (path : String) (before : Fields) (m : Member) (key : String) :
    Fields.get? (reduceMember path before m).1 key = (writtenBy key m).or (before.get? key) := by
  have hnothing : ∀ k : Option String,
      before.get? key = (if k = some key then none else none).or (before.get? key) := by
    intro k
    rw [ite_self, Option.none_or]
  cases m with
  | pair k e =>
    rw [writtenBy, Member.key?, Member.value?]
    cases hkey : keyText? k with
    | none => simp [reduceMember, hkey]
    | some k =>
      have he : (reduceAt (childPath path k) e).1 = reduction e := reduceAt_fst _ _ e
      simp only [reduceMember, hkey, addField_fst, he]
      cases (reduction e).value? with
      | none => exact hnothing (some k)
      | some v =>
        rw [Option.map_some, Option.getD_some, Fields.get?_insert]
        by_cases hk : key = k
        · simp [hk]
        · simp [hk, Ne.symm hk]
  | shorthand name => exact hnothing _
  | shorthandDefault name e => exact hnothing _
  | method kind k parts place => exact hnothing _
  | spread e => exact hnothing _

/-- The values that are written for a key, one member after another. -/
lemma getLast?_written_cons (key : String) (m : Member) (ms : List Member) :
    (written key (m :: ms)).getLast? = (written key ms).getLast?.or (writtenBy key m) := by
  by_cases hm : m.key? = some key
  · have hdefinitions : definitions key (m :: ms) = m :: definitions key ms :=
      List.filter_cons_of_pos (by simpa using hm)
    rw [written, hdefinitions, writtenBy, if_pos hm]
    cases hv : m.value? with
    | none =>
      rw [List.filterMap_cons_none hv, Option.or_none]
      rfl
    | some v =>
      rw [List.filterMap_cons_some hv, List.getLast?_cons]
      change some ((written key ms).getLast?.getD v) = _
      cases (written key ms).getLast? <;> rfl
  · have hdefinitions : definitions key (m :: ms) = definitions key ms :=
      List.filter_cons_of_neg (by simpa using hm)
    rw [written, hdefinitions, writtenBy, if_neg hm, Option.or_none]
    rfl

/-- A key holds the last value that is written for it, or else the value from before. -/
theorem get?_reduceMembers (path : String) (before : Fields) (members : List Member)
    (key : String) :
    Fields.get? (reduceMembers path before members).1 key
      = (written key members).getLast?.or (before.get? key) := by
  induction members generalizing before with
  | nil => rfl
  | cons m ms ih =>
    have hrest : (reduceMembers path before (m :: ms)).1
        = (reduceMembers path (reduceMember path before m).1 ms).1 := rfl
    rw [hrest, ih, get?_reduceMember, getLast?_written_cons, Option.or_assoc]

/-! ### The last definition -/

/-- What the last definition of a key says that the key holds. -/
def lastSays (key : String) (members : List Member) : Option Value :=
  (definitions key members).getLast?.bind Member.value?

/-- The last definition has the last word when it comes to a value, and also when no definition of
the key comes to one. -/
lemma getLast?_written_iff (key : String) (members : List Member) :
    (written key members).getLast? = lastSays key members ↔
      (lastSays key members).isSome = true ∨
        ∀ m ∈ definitions key members, m.value? = none := by
  rw [written, lastSays]
  rcases List.eq_nil_or_concat' (definitions key members) with hnil | ⟨init, last, hlast⟩
  · simp [hnil]
  · rw [hlast, List.filterMap_append, List.getLast?_concat, Option.bind_some]
    cases hv : last.value? with
    | some v => simp [hv]
    | none => simp [hv, or_imp, forall_and]

/-- **The last value of a key decides.**  An object literal comes to a mapping, at whatever path it
stands, and a key of that mapping holds the last value that is written for it.  That is what the
last definition of the key says exactly when the last definition comes to a value, or when no
definition of the key does. -/
theorem last_value_decides (path : String) (members : List Member) (key : String) :
    ∃ fields, (reduceAt path (.object members)).1 = .value (.object fields) ∧
      Fields.get? fields key = (written key members).getLast? ∧
      (Fields.get? fields key = lastSays key members ↔
        (lastSays key members).isSome = true ∨
          ∀ m ∈ definitions key members, m.value? = none) := by
  have hget := get?_reduceMembers path [] members key
  have hempty : Fields.get? [] key = none := rfl
  rw [hempty, Option.or_none] at hget
  refine ⟨(reduceMembers path [] members).1, rfl, hget, ?_⟩
  rw [hget]
  exact getLast?_written_iff key members

/-- A key that is taken back: it has a value first and is undefined in the end. -/
def takenBack : List Member :=
  [.pair (.name "a") (.literal (.string "x")), .pair (.name "a") (.ident "undefined")]

/-- The last definition of the key says that it holds nothing, and yet the value from the first one
is in the mapping. -/
theorem takenBack_stays :
    lastSays "a" takenBack = none ∧
      reduce (.object takenBack) = ⟨.object [("a", .string "x")], []⟩ :=
  ⟨rfl, rfl⟩

end Extract

end PageConfig
