import PageConfig.Json.Printer
import PageConfig.Proofs.Json.Grammar

/-!
# What is printed is in the grammar

A printed string spells its characters, and printed items and fields are pieces
with commas between them, each on a line of its own.
-/

namespace PageConfig.Json

/-- A line break and an indentation are blanks. -/
lemma blanks_newline (level : Nat) : Blanks (newline level).toList := by
  have htext : (newline level).toList = '\n' :: List.replicate (2 * level) ' ' := by simp [newline]
  intro c hc
  rw [htext] at hc
  rcases List.mem_cons.mp hc with rfl | hc
  · decide
  · rw [List.eq_of_mem_replicate hc]
    decide

/-- A digit of a code is printed small. -/
lemma hexDigit_mod (n : Nat) : HexDigit (hexDigit n) (n % 16) :=
  ⟨Nat.mod_lt n (by decide), Or.inl rfl⟩

/-- A printed character stands for itself. -/
lemma spelling_escape (c : Char) : Spelling true (escape c) c := by
  have hzero : HexDigit '0' 0 := ⟨by decide, Or.inl rfl⟩
  have hofNat : ∀ n, c.toNat = n → c = Char.ofNat n := by
    rintro n rfl
    rw [Char.ofNat_toNat]
  unfold escape
  split_ifs with hquote hslash hline hreturn htab hback hfeed hcontrol
  · subst hquote
    exact .short (by decide)
  · subst hslash
    exact .short (by decide)
  · subst hline
    exact .short (by decide)
  · subst hreturn
    exact .short (by decide)
  · subst htab
    exact .short (by decide)
  · rw [hofNat 8 hback]
    exact .short (by decide)
  · rw [hofNat 12 hfeed]
    exact .short (by decide)
  · have hcode := HexFour.mk hzero hzero (hexDigit_mod (c.toNat / 16)) (hexDigit_mod c.toNat)
    have hsum : 4096 * 0 + 256 * 0 + 16 * (c.toNat / 16 % 16) + c.toNat % 16 = c.toNat := by omega
    rw [hsum] at hcode
    exact .code rfl hcode
  · exact .plain (by omega) hquote hslash

/-- Printed characters stand for themselves. -/
lemma spells_escape (cs : List Char) : Spells true (cs.flatMap escape) cs := by
  induction cs with
  | nil => exact .nil
  | cons c cs ih =>
    rw [List.flatMap_cons]
    exact .cons (spelling_escape c) ih

/-- A printed string is in quotes. -/
lemma quoted_quote (s : String) : Quoted true (quote s).toList s.toList := by
  refine ⟨s.toList.flatMap escape, spells_escape s.toList, ?_⟩
  simp [quote]

/-! ### Items and fields -/

/-- An item on a line of its own. -/
def printedItem (level : Nat) (v : Value) : Item :=
  ⟨(newline level).toList, (v.prettyAt level).toList, []⟩

/-- A field on a line of its own. -/
def printedMember (level : Nat) (d : String × Value) : Member :=
  ⟨⟨(newline level).toList, (quote d.1).toList, []⟩, ⟨[' '], (d.2.prettyAt level).toList, []⟩⟩

lemma padded_printedItem (level : Nat) (v : Value) : (printedItem level v).Padded :=
  ⟨blanks_newline level, by simp [printedItem, Blanks]⟩

lemma padded_printedMember (level : Nat) (d : String × Value) : (printedMember level d).Padded :=
  ⟨⟨blanks_newline level, by simp [printedMember, Blanks]⟩,
    ⟨by simp [printedMember, Blanks], by simp [printedMember, Blanks]⟩⟩

/-- Printed items have commas between them. -/
lemma toList_prettyItems (level : Nat) (vs : List Value) :
    (prettyItems level vs).toList = separated (vs.map fun v => (printedItem level v).text) := by
  induction vs with
  | nil => rfl
  | cons v vs ih =>
    cases vs with
    | nil => simp [prettyItems, separated, printedItem, Item.text]
    | cons w vs =>
      rw [prettyItems, String.toList_append, ih]
      · simp [separated, printedItem, Item.text]
      · simp

/-- Printed fields have commas between them. -/
lemma toList_prettyFields (level : Nat) (fields : Fields) :
    (prettyFields level fields).toList
      = separated (fields.map fun d => (printedMember level d).text) := by
  induction fields with
  | nil => rfl
  | cons d fields ih =>
    cases fields with
    | nil => simp [prettyFields, separated, printedMember, Member.text, Item.text]
    | cons e fields =>
      rw [prettyFields, String.toList_append, ih]
      · simp [separated, printedMember, Member.text, Item.text]
      · simp

/-- A printed string is written as a value. -/
lemma writes_string (level : Nat) (s : String) :
    Writes (.string s) ((Value.string s).prettyAt level).toList := by
  rw [Value.prettyAt]
  exact .string (quoted_quote s)

/-- A printed list of strings is written as a value. -/
lemma writes_strings (level : Nat) (xs : List String) :
    Writes (.array (xs.map .string)) ((Value.array (xs.map .string)).prettyAt level).toList := by
  have hitems : ∀ blank : List Char, Blanks blank →
      Writes (.array (xs.map .string)) (enclosed '['
        ((xs.map Value.string).map fun v => (printedItem (level + 1) v).text) blank ']') := by
    intro blank hblank
    set items := xs.map fun x => (printedItem (level + 1) (.string x), Value.string x) with hitems
    have hpadded : ∀ i ∈ items, i.1.Padded := by
      intro i hi
      obtain ⟨x, -, rfl⟩ := List.mem_map.mp hi
      exact padded_printedItem _ _
    have hwrites : ∀ i ∈ items, Writes i.2 i.1.inner := by
      intro i hi
      obtain ⟨x, -, rfl⟩ := List.mem_map.mp hi
      exact writes_string (level + 1) x
    simpa [hitems, Function.comp_def] using Writes.array hblank hpadded hwrites
  cases xs with
  | nil =>
    have htext : ((Value.array []).prettyAt level).toList = enclosed '[' [] [] ']' := by
      rw [Value.prettyAt]
      rfl
    rw [List.map_nil, htext]
    exact hitems [] (by simp [Blanks])
  | cons x xs =>
    have htext : ((Value.array ((x :: xs).map .string)).prettyAt level).toList
        = enclosed '[' (((x :: xs).map Value.string).map fun v => (printedItem (level + 1) v).text)
          (newline level).toList ']' := by
      rw [List.map_cons, Value.prettyAt, String.toList_append, String.toList_append,
        String.toList_append, toList_prettyItems]
      simp [enclosed]
    rw [htext]
    exact hitems _ (blanks_newline level)

end PageConfig.Json
