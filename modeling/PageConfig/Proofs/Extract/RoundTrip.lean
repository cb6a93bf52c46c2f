import PageConfig.Extract.Initializer
import PageConfig.Project.Migration
import PageConfig.Proofs.Decimal.Exact
import PageConfig.Proofs.Json.Fields
import PageConfig.Proofs.Source.Literals

/-!
# Configs are read back as they were written

A config is written as JSON and read as an expression of the program.  The two
languages agree on everything that a config can hold: `literalOf` is the
expression that the text of a value is, and reducing it gives the value.  Only
doubles are left out, which JSON may write in a form of its own, and integers
that no double can tell apart.
-/

namespace PageConfig.Extract

open PageConfig.Decimal (Binary64)
open PageConfig.Json (Value Fields newline quote prettyItems prettyFields)
open PageConfig.Source

/-- Values that are written and read without loss: no doubles, integers of magnitude below
`2 ^ 53`, and mappings whose keys are distinct. -/
inductive Representable : Value → Prop where
  | null : Representable .null
  | bool (b : Bool) : Representable (.bool b)
  | int {n : Int} (hn : n.natAbs < 2 ^ 53) : Representable (.int n)
  | string (s : String) : Representable (.string s)
  | array {items : List Value} (hitems : ∀ v ∈ items, Representable v) :
      Representable (.array items)
  | object {fields : Fields} (hkeys : fields.keys.Nodup)
      (hfields : ∀ e ∈ fields, Representable e.2) : Representable (.object fields)

/-- The number that digits stand for. -/
def digitsLiteral (n : Nat) : Expr := .literal (.number (Binary64.ofDecimal false n 0))

mutual

/-- The expression that a value is written as. -/
def literalOf : Value → Expr
  | .null => .literal .null
  | .bool b => .literal (.bool b)
  | .int n => if n < 0 then .unary .minus (digitsLiteral n.natAbs) else digitsLiteral n.natAbs
  | .double x => .literal (.number x)
  | .string s => .literal (.string s)
  | .array items => .array (slotsOf items)
  | .object fields => .object (membersOf fields)

/-- The places of an array that values are written as. -/
def slotsOf : List Value → List Slot
  | [] => []
  | v :: vs => .item (literalOf v) :: slotsOf vs

/-- The members of an object that fields are written as. -/
def membersOf : List (String × Value) → List Member
  | [] => []
  | (k, v) :: fields => .pair (.string k) (literalOf v) :: membersOf fields

end

lemma slotsOf_eq (items : List Value) :
    slotsOf items = items.map fun v => Slot.item (literalOf v) := by
  induction items with
  | nil => rfl
  | cons v items ih => rw [slotsOf, ih, List.map_cons]

lemma membersOf_eq (fields : Fields) :
    membersOf fields = fields.map fun e => Member.pair (.string e.1) (literalOf e.2) := by
  induction fields with
  | nil => rfl
  | cons e fields ih => rw [membersOf, ih, List.map_cons]

/-! ### Reduction -/

/-- Items that reduce to themselves make a list that does. -/
lemma reduceSlots_slotsOf {items : List Value}
    (h : ∀ v ∈ items, ∀ path, reduceAt path (literalOf v) = (.value v, [])) (path : String)
    (index : Nat) : reduceSlots path index (slotsOf items) = (items, []) := by
  induction items generalizing index with
  | nil => rfl
  | cons v items ih =>
    have hv := h v List.mem_cons_self (itemPath path index)
    have hitems := ih (fun w hw => h w (List.mem_cons_of_mem v hw)) (index + 1)
    simp [slotsOf, reduceSlots, reduceSlot, hv, hitems, itemOf]

/-- Fields that reduce to themselves and have new and distinct keys are added to those before. -/
lemma reduceMembers_membersOf {fields : Fields}
    (h : ∀ e ∈ fields, ∀ path, reduceAt path (literalOf e.2) = (.value e.2, [])) (path : String)
    (before : Fields) (hkeys : (before.keys ++ fields.keys).Nodup) :
    reduceMembers path before (membersOf fields) = (before ++ fields, []) := by
  induction fields generalizing before with
  | nil => simp [membersOf, reduceMembers]
  | cons e fields ih =>
    obtain ⟨k, v⟩ := e
    have hv : reduceAt (childPath path k) (literalOf v) = (.value v, []) :=
      h (k, v) List.mem_cons_self _
    have hnew : k ∉ before.keys := by
      intro hk
      exact (List.nodup_append.mp hkeys).2.2 k hk k (by simp) rfl
    have hkeys' : (Fields.keys (before ++ [(k, v)]) ++ Fields.keys fields).Nodup := by
      simpa using hkeys
    have hfields := ih (fun e he => h e (List.mem_cons_of_mem _ he)) (before ++ [(k, v)]) hkeys'
    simp [membersOf, reduceMembers, reduceMember, keyText?, hv, addField,
      Fields.insert_of_not_mem hnew, hfields]

/-- The value of an integer is the integer. -/
lemma reduceAt_int {n : Int} (hn : n.natAbs < 2 ^ 53) (path : String) :
    reduceAt path (literalOf (.int n)) = (.value (.int n), []) := by
  obtain ⟨hpos, hneg⟩ := Binary64.toSafeInt?_ofDecimal hn
  rw [literalOf]
  split
  · have hvalue : (-(n.natAbs : Int)) = n := by omega
    rw [hvalue] at hneg
    simp [digitsLiteral, reduceAt, reduceUnary, Expr.unwrap, numberValue, hneg]
  · have hvalue : (n.natAbs : Int) = n := by omega
    rw [hvalue] at hpos
    simp [digitsLiteral, reduceAt, reduceLiteral, numberValue, hpos]

/-- The expression that a value is written as reduces to the value, and nothing is omitted. -/
lemma reduceAt_literalOf {v : Value} (hv : Representable v) (path : String) :
    reduceAt path (literalOf v) = (.value v, []) := by
  induction hv generalizing path with
  | null => rfl
  | bool b => rfl
  | int hn => exact reduceAt_int hn path
  | string s => rfl
  | array _ ih => simp [literalOf, reduceAt, reduceSlots_slotsOf ih]
  | object hkeys _ ih =>
    simp [literalOf, reduceAt, reduceMembers_membersOf ih path [] (by simpa using hkeys)]

/-! ### Texts -/

/-- The characters of a value at a level of indentation. -/
def textAt (level : Nat) (v : Value) : List Char := (v.prettyAt level).toList

/-- The characters of a field at a level of indentation. -/
def fieldTextAt (level : Nat) (e : String × Value) : List Char :=
  (quote e.1).toList ++ ':' :: ' ' :: textAt level e.2

/-- Items are written on lines of their own. -/
lemma toList_prettyItems (level : Nat) (items : List Value) :
    (prettyItems level items).toList = lines level (items.map (textAt level)) := by
  induction items with
  | nil => rfl
  | cons v items ih =>
    cases items with
    | nil => simp [prettyItems, lines, textAt]
    | cons w items =>
      rw [prettyItems, List.map_cons, List.map_cons, lines, ← List.map_cons, ← ih]
      · simp [textAt]
      · simp
      · simp

/-- Fields are written on lines of their own. -/
lemma toList_prettyFields (level : Nat) (fields : Fields) :
    (prettyFields level fields).toList = lines level (fields.map (fieldTextAt level)) := by
  induction fields with
  | nil => rfl
  | cons e fields ih =>
    cases fields with
    | nil => simp [prettyFields, lines, fieldTextAt, textAt]
    | cons d fields =>
      rw [prettyFields, List.map_cons, List.map_cons, lines, ← List.map_cons, ← ih]
      · simp [fieldTextAt, textAt]
      · simp
      · simp

/-- A list is written in brackets. -/
lemma textAt_array (level : Nat) (items : List Value) :
    textAt level (.array items)
      = '[' :: (enclosed level (items.map (textAt (level + 1))) ++ [']']) := by
  cases items with
  | nil => simp [textAt, Value.prettyAt, enclosed]
  | cons v items =>
    rw [List.map_cons, enclosed, ← List.map_cons, ← toList_prettyItems]
    simp [textAt, Value.prettyAt]

/-- A mapping is written in braces. -/
lemma textAt_object (level : Nat) (fields : Fields) :
    textAt level (.object fields)
      = '\x7b' :: (enclosed level (fields.map (fieldTextAt (level + 1))) ++ ['\x7d']) := by
  cases fields with
  | nil => simp [textAt, Value.prettyAt, enclosed]
  | cons e fields =>
    rw [List.map_cons, enclosed, ← List.map_cons, ← toList_prettyFields]
    simp [textAt, Value.prettyAt]

/-- A negative integer is written as a minus and the digits of its magnitude, any other one as its
digits. -/
lemma textAt_int (level : Nat) (n : Int) :
    textAt level (.int n)
      = if n < 0 then '-' :: Nat.toDigits 10 n.natAbs else Nat.toDigits 10 n.natAbs := by
  rw [textAt, Value.prettyAt]
  cases n with
  | ofNat k => simp [toString, Int.repr]
  | negSucc k => simp [toString, Int.repr]

/-! ### Reading -/

/-- A value starts with a token of a literal. -/
lemma fronts_textAt {v : Value} (hv : Representable v) (level : Nat) :
    Fronts (textAt level v) := by
  intro rest hends
  cases hv with
  | null => exact ⟨_, _, Or.inr .null, opens_null hends⟩
  | bool b =>
    cases b with
    | true => exact ⟨_, _, Or.inr .true, opens_true hends⟩
    | false => exact ⟨_, _, Or.inr .false, opens_false hends⟩
  | @int n hn =>
    rw [textAt_int]
    split
    · exact ⟨_, _, Or.inl rfl, opens_minus _ rest⟩
    · exact ⟨_, _, Or.inr (.number _), opens_toDigits _ hends⟩
  | string s => exact ⟨_, _, Or.inr (.string s), opens_quote s rest⟩
  | array _ =>
    rw [textAt_array]
    exact ⟨_, _, Or.inr .bracket, opens_bracket _⟩
  | object _ _ =>
    rw [textAt_object]
    exact ⟨_, _, Or.inr .brace, opens_brace _⟩

/-- A field starts with its key. -/
lemma fronts_fieldTextAt (e : String × Value) (level : Nat) : Fronts (fieldTextAt level e) := by
  intro rest _
  rw [fieldTextAt, List.append_assoc]
  exact ⟨_, _, Or.inr (.string e.1), opens_quote e.1 _⟩

/-- Values that are read as their literals make an array that is. -/
lemma reads_array {items : List Value} {n level : Nat} (hitems : ∀ v ∈ items, Representable v)
    (hreads : ∀ v ∈ items, ∀ c,
      Reads ((Grammar.rounds n).assignment c) (textAt (level + 1) v) (literalOf v)) (c : Context) :
    Reads ((Grammar.rounds (n + 4)).assignment c) (textAt level (.array items))
      (literalOf (.array items)) := by
  set ps := items.map fun v => (textAt (level + 1) v, Slot.item (literalOf v)) with hps
  have htexts : items.map (textAt (level + 1)) = ps.map Prod.fst := by simp [hps]
  have hslots : slotsOf items = ps.map Prod.snd := by simp [hps, slotsOf_eq]
  have hread : ∀ c, ∀ p ∈ ps, Reads (Expressions.slot (Grammar.rounds n) c) p.1 p.2 := by
    intro c p hp
    obtain ⟨v, hv, rfl⟩ := List.mem_map.mp hp
    exact slot_reads (hreads v hv c.inner) (fronts_textAt (hitems v hv) _)
  have hfront : ∀ p ∈ ps, Fronts p.1 := by
    intro p hp
    obtain ⟨v, hv, rfl⟩ := List.mem_map.mp hp
    exact fronts_textAt (hitems v hv) _
  rw [textAt_array, literalOf, htexts, hslots]
  refine reads_of_primary (fun rest => enclosed level (ps.map Prod.fst) ++ ']' :: rest) .bracket
    (.array _) ?_ ?_ c
  · intro rest _
    rw [List.cons_append, List.append_assoc]
    exact opens_bracket _
  · intro c start rest broken _
    exact primary_bracket (listUntil_enclosed (hread c) hfront (opens_unbracket rest) (by decide)
      (by decide) level) start broken

/-- Fields whose values are read as their literals make an object that is. -/
lemma reads_object {fields : Fields} {n level : Nat}
    (hreads : ∀ e ∈ fields, ∀ c,
      Reads ((Grammar.rounds n).assignment c) (textAt (level + 1) e.2) (literalOf e.2))
    (c : Context) :
    Reads ((Grammar.rounds (n + 4)).assignment c) (textAt level (.object fields))
      (literalOf (.object fields)) := by
  set ps := fields.map fun e =>
    (fieldTextAt (level + 1) e, Member.pair (.string e.1) (literalOf e.2)) with hps
  have htexts : fields.map (fieldTextAt (level + 1)) = ps.map Prod.fst := by simp [hps]
  have hmembers : membersOf fields = ps.map Prod.snd := by simp [hps, membersOf_eq]
  have hread : ∀ c, ∀ p ∈ ps, Reads (Expressions.objectMember (Grammar.rounds n) c) p.1 p.2 := by
    intro c p hp
    obtain ⟨e, he, rfl⟩ := List.mem_map.mp hp
    exact objectMember_reads (hreads e he c.inner) e.1
  have hfront : ∀ p ∈ ps, Fronts p.1 := by
    intro p hp
    obtain ⟨e, -, rfl⟩ := List.mem_map.mp hp
    exact fronts_fieldTextAt e _
  rw [textAt_object, literalOf, htexts, hmembers]
  refine reads_of_primary (fun rest => enclosed level (ps.map Prod.fst) ++ '\x7d' :: rest) .brace
    (.object _) ?_ ?_ c
  · intro rest _
    rw [List.cons_append, List.append_assoc]
    exact opens_brace _
  · intro c start rest broken _
    exact primary_brace (listUntil_enclosed (hread c) hfront (opens_unbrace rest) (by decide)
      (by decide) level) start broken

/-- There are enough rounds for a literal and a sign. -/
lemma exists_rounds {v : Value} (hv : Representable v) {level n : Nat}
    (hn : 4 * (textAt level v).length < n) : ∃ m, n = m + 5 := by
  have hpos := (fronts_textAt hv level).length_pos
  exact ⟨n - 5, by omega⟩

/-- A value is read as the expression it is written as, in four rounds for each of its characters. -/
lemma reads_textAt {v : Value} (hv : Representable v) (level n : Nat)
    (hn : 4 * (textAt level v).length < n) (c : Context) :
    Reads ((Grammar.rounds n).assignment c) (textAt level v) (literalOf v) := by
  induction hv generalizing level n c with
  | null =>
    obtain ⟨n, rfl⟩ := exists_rounds .null hn
    exact reads_of_primary id .null (.literal _) (fun _ hends => opens_null hends)
      (fun _ _ _ _ _ => rfl) c
  | bool b =>
    obtain ⟨n, rfl⟩ := exists_rounds (.bool b) hn
    cases b with
    | true =>
      exact reads_of_primary id .true (.literal _) (fun _ hends => opens_true hends)
        (fun _ _ _ _ _ => rfl) c
    | false =>
      exact reads_of_primary id .false (.literal _) (fun _ hends => opens_false hends)
        (fun _ _ _ _ _ => rfl) c
  | @int k hk =>
    obtain ⟨n, rfl⟩ := exists_rounds (.int hk) hn
    rw [textAt_int, literalOf]
    by_cases hneg : k < 0
    · rw [if_pos hneg, if_pos hneg]
      exact reads_minus n k.natAbs c
    · rw [if_neg hneg, if_neg hneg]
      exact reads_toDigits (n + 1) k.natAbs c
  | string s =>
    obtain ⟨n, rfl⟩ := exists_rounds (.string s) hn
    exact reads_of_primary id (.string s) (.literal _) (fun rest _ => opens_quote s rest)
      (fun _ _ _ _ _ => rfl) c
  | @array items hitems ih =>
    obtain ⟨n, rfl⟩ := exists_rounds (.array hitems) hn
    refine reads_array hitems (fun v hv c => ih v hv (level + 1) (n + 1) ?_ c) c
    have hlength : (textAt (level + 1) v).length < _ :=
      length_lt_length_enclosed (List.mem_map_of_mem hv) level
    rw [textAt_array] at hn
    simp only [List.length_cons, List.length_append] at hn
    omega
  | @object fields hkeys hfields ih =>
    obtain ⟨n, rfl⟩ := exists_rounds (.object hkeys hfields) hn
    refine reads_object (fun e he c => ih e he (level + 1) (n + 1) ?_ c) c
    have hlength : (fieldTextAt (level + 1) e).length < _ :=
      length_lt_length_enclosed (List.mem_map_of_mem he) level
    rw [textAt_object] at hn
    simp only [fieldTextAt, List.length_cons, List.length_append] at hn hlength
    omega

/-! ### The round trip -/

/-- **Extraction undoes rendering.**  The text of a config file is `export default` and the text of
its value, and that text, as the value of a variable, is read back as the value, with nothing
omitted: same keys in the same order, same integers, same strings, at any depth. -/
theorem reduceText_render {v : Value} (hv : Representable v) :
    ∃ text, Project.Artifact.render v = "export default " ++ text ∧
      reduceText text = .ok ⟨v, []⟩ := by
  have hread : ∀ n c, 4 * v.pretty.toList.length < n →
      Reads ((Grammar.rounds n).assignment c) v.pretty.toList (literalOf v) :=
    fun n c hn => reads_textAt hv 0 n hn c
  refine ⟨v.pretty, rfl, ?_⟩
  rw [reduceText, declaration, parse_declaration hread]
  change Except.ok (reduce (literalOf v)) = _
  rw [reduce, reduceAt_literalOf hv]

/-- A mapping with keys that need escapes, and every kind of value below them. -/
def motley : Value :=
  .object [
    ("say \"hi\"", .array [.int (-9007199254740991), .array [], .object [], .null, .bool true]),
    ("\n\x01", .object [("__proto__", .string "\\ \x7b\x7d 😀"), ("", .int 0)])]

/-- The mapping holds nothing that is lost. -/
lemma representable_motley : Representable motley := by
  refine .object (by decide) fun e he => ?_
  obtain rfl | rfl : e = _ ∨ e = _ := by simpa using he
  · refine .array fun v hv => ?_
    obtain rfl | rfl | rfl | rfl | rfl : v = _ ∨ v = _ ∨ v = _ ∨ v = _ ∨ v = _ := by
      simpa using hv
    · exact .int (by decide)
    · exact .array (by simp)
    · exact .object (by decide) (by simp)
    · exact .null
    · exact .bool true
  · refine .object (by decide) fun e he => ?_
    obtain rfl | rfl : e = _ ∨ e = _ := by simpa using he
    · exact .string _
    · exact .int (by decide)

/-- The mapping is read back from the text of its config file. -/
theorem reduceText_render_motley :
    Representable motley ∧ ∃ text, Project.Artifact.render motley = "export default " ++ text ∧
      reduceText text = .ok ⟨motley, []⟩ :=
  ⟨representable_motley, reduceText_render representable_motley⟩

end PageConfig.Extract
