import PageConfig.Proofs.Json.Reading

/-!
# Passing over what the grammar allows

A value that nobody asks for is passed over without being kept, but its grammar
is checked.  Every text of a JSON value, however large and however deep, is passed
over to its end (`skips_of_isValue`).

Only a number does not show where it ends: it goes on as long as its characters
do.  So the lemmas are about a value in front of what can follow one (`Ends`).
The depth is limited by fuel alone, and as much fuel as the value has characters
is enough: each level has marks of its own, and each item but the first a comma.
-/

namespace PageConfig.Json.Reader

variable {text rest : List Char}

/-! ### Numbers -/

/-- The rest of a word is passed over. -/
lemma word_append (cs rest : List Char) : word cs (cs ++ rest) = .ok ((), rest) := by
  induction cs with
  | nil => rfl
  | cons c cs ih =>
    rw [List.cons_append, word, bind_ok (peek_run _)]
    simp only [List.head?_cons, if_true]
    rw [bind_ok (skip_run _ _), ih]

/-- No digit comes next. -/
def NoDigit (rest : List Char) : Prop := ∀ c ∈ rest.head?, c.isDigit = false

/-- Digits are read to the last one. -/
lemma digits_append (h : ∀ c ∈ text, c.isDigit = true) (hrest : NoDigit rest) :
    digits (text ++ rest) = .ok (text, rest) := by
  have hnone : rest.takeWhile Char.isDigit = [] ∧ rest.dropWhile Char.isDigit = rest := by
    cases rest with
    | nil => exact ⟨rfl, rfl⟩
    | cons c cs =>
      have hc : c.isDigit = false := hrest c rfl
      exact ⟨List.takeWhile_cons_of_neg (by simp [hc]), List.dropWhile_cons_of_neg (by simp [hc])⟩
  rw [digits, List.takeWhile_append_of_pos h, List.dropWhile_append_of_pos h, hnone.1, hnone.2,
    List.append_nil]

/-- The whole part of a number is read. -/
lemma wholePart_append (h : IsWhole text) (hrest : NoDigit rest) :
    wholePart (text ++ rest) = .ok (text, rest) := by
  rcases h with rfl | ⟨⟨hne, hdigits⟩, hzero⟩
  · rw [wholePart, List.singleton_append, bind_ok (peek_run _)]
    simp only [List.head?_cons]
    rw [bind_ok (skip_run _ _), bind_ok (peek_run _)]
    cases rest with
    | nil => rfl
    | cons c cs =>
      have hc : c.isDigit = false := hrest c rfl
      simp only [List.head?_cons, hc]
      rfl
  · obtain ⟨c, cs, rfl⟩ := List.exists_cons_of_ne_nil hne
    have hc : c.isDigit = true := hdigits c List.mem_cons_self
    have hne : c ≠ '0' := by simpa using hzero
    rw [wholePart, List.cons_append, bind_ok (peek_run _)]
    simp only [List.head?_cons, hc, if_true]
    rw [← List.cons_append, digits_append hdigits hrest]

/-- Digits are passed over. -/
lemma skipDigits_append (h : Digits text) (hrest : NoDigit rest) :
    skipDigits (text ++ rest) = .ok ((), rest) := by
  have hempty : text.isEmpty = false := by simpa using h.1
  rw [skipDigits, bind_ok (digits_append h.2 hrest), hempty]
  rfl

/-- The characters that can follow a value: marks, and blanks. -/
def closers : List Char := [',', ']', '\x7d', ' ', '\n', '\t', '\r']

/-- What can follow a value: nothing, or text that starts with a mark or a blank. -/
def Ends (rest : List Char) : Prop := ∀ c ∈ rest.head?, c ∈ closers

/-- Nothing that follows a value goes on with a number. -/
lemma Ends.not_number (h : Ends rest) :
    NoDigit rest ∧ ∀ c ∈ ['.', 'e', 'E'], rest.head? ≠ some c := by
  have hall : ∀ c ∈ closers, c.isDigit = false ∧ c ∉ ['.', 'e', 'E'] := by simp [closers]
  exact ⟨fun c hc => (hall c (h c hc)).1, fun c hc hhead => (hall c (h c hhead)).2 hc⟩

/-- What passing over a number ends with. -/
def skipExponent : Reader Unit := do
  match ← peek with
  | some 'e' | some 'E' => do
    skip
    let _ ← exponentSign
    skipDigits
  | _ => pure ()

/-- An exponent is passed over, if there is one. -/
lemma skipExponent_append (h : IsExponent text) (hrest : Ends rest) :
    skipExponent (text ++ rest) = .ok ((), rest) := by
  obtain ⟨hdigit, hmarks⟩ := hrest.not_number
  rcases h with rfl | ⟨mark, hmark, sign, hsign, ds, hds, rfl⟩
  · have he := hmarks 'e' (by decide)
    have hE := hmarks 'E' (by decide)
    rw [skipExponent, List.nil_append, bind_ok (peek_run _)]
    simp only []
    rfl
  · have hsigned : exponentSign (sign ++ (ds ++ rest)) = .ok (sign == ['-'], ds ++ rest) := by
      simp only [List.mem_cons, List.not_mem_nil, or_false] at hsign
      rcases hsign with rfl | rfl | rfl
      · obtain ⟨c, cs, rfl⟩ := List.exists_cons_of_ne_nil hds.1
        have hc : c.isDigit = true := hds.2 c List.mem_cons_self
        have hplus : some c ≠ some '+' := by
          rintro ⟨⟩
          cases hc
        have hminus : some c ≠ some '-' := by
          rintro ⟨⟩
          cases hc
        rw [exponentSign, bind_ok (peek_run _)]
        simp only [List.nil_append, List.cons_append, List.head?_cons]
        rfl
      · rfl
      · rfl
    have hskip : (exponentSign >>= fun _ => skipDigits) (sign ++ (ds ++ rest)) = .ok ((), rest) := by
      rw [bind_ok hsigned, skipDigits_append hds hdigit]
    simp only [List.mem_cons, List.not_mem_nil, or_false] at hmark
    rw [skipExponent, List.cons_append, List.append_assoc, bind_ok (peek_run _)]
    rcases hmark with rfl | rfl
    · exact hskip
    · exact hskip

/-- A number after its sign is passed over. -/
lemma skipNumber_append {whole fraction exponent : List Char} (hwhole : IsWhole whole)
    (hfraction : IsFraction fraction) (hexponent : IsExponent exponent) (hrest : Ends rest) :
    skipNumber (whole ++ (fraction ++ (exponent ++ rest))) = .ok ((), rest) := by
  have hskip : skipExponent (exponent ++ rest) = .ok ((), rest) :=
    skipExponent_append hexponent hrest
  obtain ⟨hdigit, hmarks⟩ := hrest.not_number
  have hafter : NoDigit (exponent ++ rest) ∧ (exponent ++ rest).head? ≠ some '.' := by
    rcases hexponent with rfl | ⟨mark, hmark, sign, -, ds, -, rfl⟩
    · exact ⟨hdigit, hmarks '.' (by decide)⟩
    · have hall : ∀ c ∈ ['e', 'E'], c.isDigit = false ∧ c ≠ '.' := by simp
      obtain ⟨hnot, hne⟩ := hall mark hmark
      exact ⟨by simpa [NoDigit] using hnot, by simpa using hne⟩
  have hpart : NoDigit (fraction ++ (exponent ++ rest)) := by
    rcases hfraction with rfl | ⟨ds, -, rfl⟩
    · exact hafter.1
    · simp [NoDigit]
  obtain ⟨c, cs, hcs⟩ : ∃ c cs, whole = c :: cs := by
    rcases hwhole with rfl | ⟨⟨hne, -⟩, -⟩
    · exact ⟨'0', [], rfl⟩
    · exact List.exists_cons_of_ne_nil hne
  have hhead : (whole ++ (fraction ++ (exponent ++ rest))).head? = some c := by simp [hcs]
  rw [skipNumber, bind_ok (peek_run _), hhead]
  simp only []
  rw [bind_ok (wholePart_append hwhole hpart)]
  rcases hfraction with rfl | ⟨ds, hds, rfl⟩
  · rw [List.nil_append, bind_ok (peek_run _)]
    simp only [hafter.2, imp_self]
    exact hskip
  · rw [List.cons_append, bind_ok (peek_run _)]
    simp only [List.head?_cons]
    rw [bind_ok (skip_run _ _), bind_ok (skipDigits_append hds hafter.1)]
    exact hskip

/-! ### Values that are passed over -/

/-- A digit is one of ten characters. -/
lemma mem_of_isDigit {c : Char} (h : c.isDigit = true) : c ∈ "0123456789".toList := by
  have hrange : 48 ≤ c.toNat ∧ c.toNat ≤ 57 := by
    simpa [Char.isDigit, UInt32.le_iff_toNat_le] using h
  have hall : ∀ k < 10, Char.ofNat (48 + k) ∈ "0123456789".toList := by decide
  have hc := hall (c.toNat - 48) (by omega)
  rwa [Nat.add_sub_of_le hrange.1, Char.ofNat_toNat] at hc

/-- The characters that values start with. -/
def openers : List Char := "nft\"[\x7b-0123456789".toList

/-- A value starts with one of them. -/
lemma exists_cons_of_isValue (h : IsValue text) :
    ∃ c ∈ openers, ∃ cs, text = c :: cs := by
  cases h with
  | word hw =>
    simp only [List.mem_cons, List.not_mem_nil, or_false] at hw
    rcases hw with rfl | rfl | rfl
    · exact ⟨'n', by decide, _, rfl⟩
    · exact ⟨'t', by decide, _, rfl⟩
    · exact ⟨'f', by decide, _, rfl⟩
  | number hnumber =>
    obtain ⟨hsign, hwhole, -, -⟩ := hnumber
    simp only [List.mem_cons, List.not_mem_nil, or_false] at hsign
    rcases hsign with rfl | rfl
    · rcases hwhole with rfl | ⟨⟨hne, hdigits⟩, -⟩
      · exact ⟨'0', by decide, _, rfl⟩
      · obtain ⟨c, cs, rfl⟩ := List.exists_cons_of_ne_nil hne
        have hc := mem_of_isDigit (hdigits c List.mem_cons_self)
        exact ⟨c, List.mem_append_right "nft\"[\x7b-".toList hc, _, rfl⟩
    · exact ⟨'-', by decide, _, rfl⟩
  | string hstring =>
    obtain ⟨body, -, rfl⟩ := hstring
    exact ⟨'"', by decide, _, rfl⟩
  | array => exact ⟨'[', by decide, _, rfl⟩
  | object => exact ⟨'\x7b', by decide, _, rfl⟩

lemma ends_cons {c : Char} (h : c ∈ [',', ']', '\x7d']) (rest : List Char) : Ends (c :: rest) := by
  have hall : ∀ c ∈ [',', ']', '\x7d'], c ∈ closers := by simp [closers]
  intro d hd
  obtain rfl : c = d := by simpa using hd
  exact hall c h

/-- Blanks can follow a value. -/
lemma Ends.append (h : Ends rest) (htext : Blanks text) : Ends (text ++ rest) := by
  have hall : ∀ c ∈ [' ', '\n', '\t', '\r'], c ∈ closers := by simp [closers]
  cases text with
  | nil => exact h
  | cons c cs =>
    intro d hd
    obtain rfl : c = d := by simpa using hd
    exact hall c (htext c List.mem_cons_self)

/-- A text that is passed over, given enough fuel, wherever a value can end. -/
def Skips (text : List Char) : Prop :=
  ∀ fuel rest, text.length ≤ fuel → Ends rest → skipValue fuel (text ++ rest) = .ok ((), rest)

/-- Blanks before a value are passed over with it. -/
lemma skipValue_append {fuel : Nat} (hfuel : 0 < fuel) (h : Blanks text) (rest : List Char) :
    skipValue fuel (text ++ rest) = skipValue fuel rest := by
  obtain ⟨n, rfl⟩ := Nat.exists_eq_add_of_lt hfuel
  rw [skipValue, peekToken_bind_append h]

/-- An item whose value is passed over. -/
structure SkipsItem (i : Item) : Prop where
  padded : i.Padded
  value : IsValue i.inner
  skips : Skips i.inner

/-- An item is passed over, up to the blanks behind it. -/
lemma SkipsItem.skipValue {i : Item} (h : SkipsItem i) {fuel : Nat}
    (hfuel : i.inner.length ≤ fuel) (hrest : Ends rest) :
    Reader.skipValue fuel (i.text ++ rest) = .ok ((), i.after ++ rest) := by
  have hpos : 0 < i.inner.length := by
    obtain ⟨c, -, cs, hcs⟩ := exists_cons_of_isValue h.value
    rw [hcs]
    exact Nat.succ_pos _
  rw [Item.text, List.append_assoc, List.append_assoc, skipValue_append (by omega) h.padded.before,
    h.skips fuel _ hfuel (hrest.append h.padded.after)]

/-- The items of a list are passed over, with the mark that ends it. -/
lemma skipItems_append {items : List Item} (h : ∀ i ∈ items, SkipsItem i) (hitems : items ≠ [])
    {blank : List Char} (hblank : Blanks blank) {fuel : Nat}
    (hfuel : (separated (items.map Item.text)).length < fuel) (rest : List Char) :
    skipItems fuel (separated (items.map Item.text) ++ (blank ++ ']' :: rest)) = .ok ((), rest) := by
  induction items generalizing fuel with
  | nil => exact absurd rfl hitems
  | cons i items ih =>
    obtain ⟨n, rfl⟩ : ∃ n, fuel = n + 1 := ⟨fuel - 1, by omega⟩
    have hi := h i List.mem_cons_self
    have hlength : i.inner.length ≤ i.text.length := by
      simp only [Item.text, List.length_append]
      omega
    cases items with
    | nil =>
      rw [List.map_singleton, separated_singleton] at hfuel ⊢
      have hends : Ends (blank ++ ']' :: rest) := (ends_cons (by decide) rest).append hblank
      rw [skipItems, bind_ok (hi.skipValue (by omega) hends),
        bind_ok ((peekToken_append hi.padded.after _).trans (peekToken_blanks hblank rfl rest))]
      rfl
    | cons j items =>
      rw [List.map_cons, List.map_cons, separated_cons_cons] at hfuel ⊢
      rw [List.length_append, List.length_cons] at hfuel
      rw [List.append_assoc, List.cons_append, skipItems,
        bind_ok (hi.skipValue (by omega) (ends_cons (by decide) _)),
        bind_ok (peekToken_blanks hi.padded.after rfl _)]
      simp only []
      rw [bind_ok (skip_run _ _), ← List.map_cons]
      exact ih (fun k hk => h k (List.mem_cons_of_mem i hk)) (List.cons_ne_nil j items)
        (by rw [List.map_cons]; omega)

/-- Blanks before the items of a list are passed over with them. -/
lemma skipItems_blanks {fuel : Nat} (hfuel : 1 < fuel) (h : Blanks text) (rest : List Char) :
    skipItems fuel (text ++ rest) = skipItems fuel rest := by
  obtain ⟨n, rfl⟩ : ∃ n, fuel = n + 1 := ⟨fuel - 1, by omega⟩
  have hskip : skipValue n (text ++ rest) = skipValue n rest := skipValue_append (by omega) h rest
  rw [skipItems]
  exact bind_run_congr hskip _

/-- What comes after a field that was passed over: the mark that ends the object, or more fields. -/
def fieldEnd (fuel : Nat) : Reader Unit := do
  match ← peekToken with
  | none => failHere .endInObject
  | some '\x7d' => skip
  | some ',' => do
    skip
    skipFields fuel
  | some _ => failAtNext .expectedObjectEnd

/-- A field whose value is passed over. -/
structure SkipsMember (m : Member) : Prop where
  key : m.key.Padded
  name : ∃ cs, Quoted false m.key.inner cs
  value : SkipsItem m.value

/-- One field is passed over, up to the blanks behind it. -/
lemma SkipsMember.skipFields {m : Member} (h : SkipsMember m) {fuel : Nat}
    (hfuel : m.text.length ≤ fuel) (hrest : Ends rest) :
    Reader.skipFields (fuel + 1) (m.text ++ rest) = fieldEnd fuel (m.value.after ++ rest) := by
  have hlength : m.value.inner.length ≤ fuel := by
    simp only [Member.text, Item.text, List.length_append, List.length_cons] at hfuel
    omega
  obtain ⟨cs, hname⟩ := h.name
  obtain ⟨inner, hquoted, hstring⟩ :=
    skipString_quoted hname (m.key.after ++ ':' :: (m.value.text ++ rest))
  have htext : m.text ++ rest = m.key.before ++ '"' :: inner := by
    rw [← hquoted]
    simp [Member.text, Item.text]
  rw [htext, Reader.skipFields, bind_ok (peekToken_blanks h.key.before rfl _)]
  simp only []
  rw [bind_ok (skip_run _ _), bind_ok hstring, bind_ok (colon_append h.key.after _),
    bind_ok (h.value.skipValue hlength hrest)]
  rfl

/-- The fields of an object are passed over, with the mark that ends it. -/
lemma skipFields_append {members : List Member} (h : ∀ m ∈ members, SkipsMember m)
    (hmembers : members ≠ []) {blank : List Char} (hblank : Blanks blank) {fuel : Nat}
    (hfuel : (separated (members.map Member.text)).length < fuel) (rest : List Char) :
    skipFields fuel (separated (members.map Member.text) ++ (blank ++ '\x7d' :: rest))
      = .ok ((), rest) := by
  induction members generalizing fuel with
  | nil => exact absurd rfl hmembers
  | cons m members ih =>
    obtain ⟨n, rfl⟩ : ∃ n, fuel = n + 1 := ⟨fuel - 1, by omega⟩
    have hm := h m List.mem_cons_self
    have hafter := hm.value.padded.after
    cases members with
    | nil =>
      rw [List.map_singleton, separated_singleton] at hfuel ⊢
      have hends : Ends (blank ++ '\x7d' :: rest) := (ends_cons (by decide) rest).append hblank
      rw [hm.skipFields (by omega) hends, fieldEnd,
        bind_ok ((peekToken_append hafter _).trans (peekToken_blanks hblank rfl rest))]
      rfl
    | cons k members =>
      rw [List.map_cons, List.map_cons, separated_cons_cons] at hfuel ⊢
      rw [List.length_append, List.length_cons] at hfuel
      rw [List.append_assoc, List.cons_append, hm.skipFields (by omega) (ends_cons (by decide) _),
        fieldEnd, bind_ok (peekToken_blanks hafter rfl _)]
      simp only []
      rw [bind_ok (skip_run _ _), ← List.map_cons]
      exact ih (fun l hl => h l (List.mem_cons_of_mem m hl)) (List.cons_ne_nil k members)
        (by rw [List.map_cons]; omega)

/-- A number without a sign is passed over from its first digit. -/
lemma skipValue_of_isDigit {c : Char} (hc : c.isDigit = true) (fuel : Nat) (rest : List Char) :
    skipValue (fuel + 1) (c :: rest) = skipNumber (c :: rest) := by
  have hmem := mem_of_isDigit hc
  have hblank : isBlank c = false := by
    have hall : "0123456789".toList.all (fun c => !isBlank c) = true := by decide
    simpa using List.all_eq_true.mp hall c hmem
  rw [skipValue, bind_ok (peekToken_cons hblank rest)]
  simp only [String.reduceToList, List.mem_cons, List.not_mem_nil, or_false] at hmem
  rcases hmem with rfl | rfl | rfl | rfl | rfl | rfl | rfl | rfl | rfl | rfl <;> rfl

/-- A number is passed over. -/
lemma skips_of_isNumber (h : IsNumber text) : Skips text := by
  obtain ⟨hsign, hwhole, hfraction, hexponent⟩ := h
  rename_i sign whole fraction exponent
  intro fuel rest hfuel hrest
  have hnumber := skipNumber_append hwhole hfraction hexponent hrest
  obtain ⟨c, cs, hcs, hc⟩ : ∃ c cs, whole = c :: cs ∧ c.isDigit = true := by
    rcases hwhole with rfl | ⟨⟨hne, hdigits⟩, -⟩
    · exact ⟨'0', [], rfl, rfl⟩
    · obtain ⟨c, cs, rfl⟩ := List.exists_cons_of_ne_nil hne
      exact ⟨c, cs, rfl, hdigits c List.mem_cons_self⟩
  obtain ⟨n, rfl⟩ : ∃ n, fuel = n + 1 := by
    refine ⟨fuel - 1, ?_⟩
    simp only [hcs, List.length_append, List.length_cons] at hfuel
    omega
  simp only [List.append_assoc]
  simp only [List.mem_cons, List.not_mem_nil, or_false] at hsign
  rcases hsign with rfl | rfl
  · rw [hcs] at hnumber ⊢
    rw [List.nil_append, List.cons_append, skipValue_of_isDigit hc, ← List.cons_append, hnumber]
  · rw [List.singleton_append, skipValue, bind_ok (peekToken_cons rfl _)]
    exact hnumber

/-- What values start with is not blank, and ends no list. -/
lemma not_blank_of_mem_openers {c : Char} (h : c ∈ openers) :
    isBlank c = false ∧ c ≠ ']' := by
  have hall : openers.all (fun c => !isBlank c && c != ']') = true := by decide
  simpa using List.all_eq_true.mp hall c h

/-- A list of values that are passed over is passed over. -/
lemma skips_list {items : List Item} {blank : List Char} (hblank : Blanks blank)
    (h : ∀ i ∈ items, SkipsItem i) : Skips (enclosed '[' (items.map Item.text) blank ']') := by
  intro fuel rest hfuel _
  simp only [enclosed, List.length_append, List.length_cons] at hfuel
  obtain ⟨n, rfl⟩ : ∃ n, fuel = n + 1 := ⟨fuel - 1, by omega⟩
  rw [enclosed_append, skipValue, bind_ok (peekToken_cons rfl _)]
  simp only []
  rw [bind_ok (skip_run _ _)]
  cases items with
  | nil =>
    rw [List.map_nil, separated, List.nil_append, bind_ok (peekToken_blanks hblank rfl rest)]
    rfl
  | cons i items =>
    have hi := h i List.mem_cons_self
    have hlist : skipItems n (separated ((i :: items).map Item.text) ++ (blank ++ ']' :: rest))
        = .ok ((), rest) :=
      skipItems_append h (List.cons_ne_nil i items) hblank (by omega) rest
    obtain ⟨c, hmem, cs, hcs⟩ := exists_cons_of_isValue hi.value
    obtain ⟨hc, hne⟩ := not_blank_of_mem_openers hmem
    obtain ⟨tail, htail⟩ : ∃ tail, separated ((i :: items).map Item.text)
        ++ (blank ++ ']' :: rest) = i.before ++ c :: tail := by
      simp [separated, Item.text, hcs]
    have hn : 1 < n := by
      simp only [separated, List.map_cons, Item.text, hcs, List.length_append,
        List.length_cons] at hfuel
      omega
    -- the blanks before the first item are gone once it is known that there is one
    rw [htail] at hlist ⊢
    rw [bind_ok (peekToken_blanks hi.padded.before hc tail)]
    simp only []
    rwa [skipItems_blanks hn hi.padded.before] at hlist

/-- An object of values that are passed over is passed over. -/
lemma skips_object {members : List Member} {blank : List Char} (hblank : Blanks blank)
    (h : ∀ m ∈ members, SkipsMember m) :
    Skips (enclosed '\x7b' (members.map Member.text) blank '\x7d') := by
  intro fuel rest hfuel _
  simp only [enclosed, List.length_append, List.length_cons] at hfuel
  obtain ⟨n, rfl⟩ : ∃ n, fuel = n + 1 := ⟨fuel - 1, by omega⟩
  rw [enclosed_append, skipValue, bind_ok (peekToken_cons rfl _)]
  simp only []
  rw [bind_ok (skip_run _ _)]
  cases members with
  | nil =>
    rw [List.map_nil, separated, List.nil_append, bind_ok (peekToken_blanks hblank rfl rest)]
    rfl
  | cons m members =>
    have hm := h m List.mem_cons_self
    have hlist : skipFields n (separated ((m :: members).map Member.text)
        ++ (blank ++ '\x7d' :: rest)) = .ok ((), rest) :=
      skipFields_append h (List.cons_ne_nil m members) hblank (by omega) rest
    obtain ⟨_, body, -, hbody⟩ := hm.name
    obtain ⟨tail, htail⟩ : ∃ tail, separated ((m :: members).map Member.text)
        ++ (blank ++ '\x7d' :: rest) = m.key.before ++ '"' :: tail := by
      simp [separated, Member.text, Item.text, hbody]
    obtain ⟨k, rfl⟩ : ∃ k, n = k + 1 := ⟨n - 1, by omega⟩
    rw [htail] at hlist ⊢
    rw [bind_ok (peekToken_blanks hm.key.before rfl tail)]
    rw [skipFields, peekToken_bind_append hm.key.before, ← skipFields] at hlist
    exact hlist

/-- **Every JSON value is passed over**, whatever its size and depth. -/
theorem skips_of_isValue (h : IsValue text) : Skips text := by
  induction h with
  | word hw =>
    intro fuel rest hfuel _
    simp only [List.mem_cons, List.not_mem_nil, or_false] at hw
    obtain ⟨n, rfl⟩ : ∃ n, fuel = n + 1 := by
      refine ⟨fuel - 1, ?_⟩
      rcases hw with rfl | rfl | rfl <;> simp at hfuel <;> omega
    rcases hw with rfl | rfl | rfl
    · exact word_append "ull".toList rest
    · exact word_append "rue".toList rest
    · exact word_append "alse".toList rest
  | number hnumber => exact skips_of_isNumber hnumber
  | string hstring =>
    intro fuel rest hfuel _
    obtain ⟨inner, hinner, hskip⟩ := skipString_quoted hstring rest
    obtain ⟨body, -, rfl⟩ := hstring
    obtain ⟨n, rfl⟩ : ∃ n, fuel = n + 1 := by
      refine ⟨fuel - 1, ?_⟩
      simp only [List.length_cons] at hfuel
      omega
    rw [hinner, skipValue, bind_ok (peekToken_cons rfl _)]
    exact hskip
  | array hblank hpadded hitems ih =>
    exact skips_list hblank fun i hi => ⟨hpadded i hi, hitems i hi, ih i hi⟩
  | object hblank hpadded hkeys hvalues ih =>
    exact skips_object hblank fun m hm =>
      ⟨(hpadded m hm).key, hkeys m hm, (hpadded m hm).value, hvalues m hm, ih m hm⟩

end PageConfig.Json.Reader
