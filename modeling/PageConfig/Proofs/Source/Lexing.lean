import Mathlib.Data.List.Basic
import Mathlib.Tactic.Lemma
import PageConfig.Json.Printer
import PageConfig.Source.Token

/-!
# Tokens of printed text

What the printer writes is cut back into the tokens it was written for.  A text
`Opens` with a token when the token stands at its very front.  Words and
numbers end only where no letter or digit follows, so for them the text after
has to be known: `Ends` says how it starts wherever the printer ends a value.
-/

namespace PageConfig.Source

open PageConfig.Decimal (Binary64)
open PageConfig.Json (hexDigit quote newline)
open PageConfig.Text (isNameStart isNamePart)

/-- A text opens with a token, which some text follows. -/
structure Opens (t : Token) (cs rest : List Char) : Prop where
  token : tokenAt cs = (t, rest)
  /-- Neither a blank nor a comment stands in front. -/
  gap : ∀ broken, skipGap .between broken cs = (broken, cs)
  conflict : opensConflict cs = false

/-- The cursor at a text that opens with a token. -/
lemma Opens.ofText {t : Token} {cs rest : List Char} (h : Opens t cs rest) (broken : Bool) :
    Cursor.ofText broken cs = ⟨t, cs, rest, broken⟩ := by
  simp [Cursor.ofText, h.gap, h.conflict, h.token]

/-- Blanks are passed over. -/
lemma skipGap_spaces (k : Nat) (broken : Bool) (cs : List Char) :
    skipGap .between broken (List.replicate k ' ' ++ cs) = skipGap .between broken cs := by
  induction k with
  | zero => rfl
  | succ k ih =>
    rw [List.replicate_succ, List.cons_append, ← ih]
    rfl

/-- The indentation of a line moves a cursor to the start of the line. -/
lemma at_newline (level : Nat) (cs : List Char) :
    Cursor.at ((newline level).toList ++ cs) = Cursor.ofText true cs := by
  have hgap : skipGap .between false ((newline level).toList ++ cs)
      = skipGap .between true cs := by
    rw [← skipGap_spaces (2 * level) true cs]
    simp only [newline, String.toList_append, String.toList_ofList]
    rfl
  simp only [Cursor.at, Cursor.ofText, hgap]

/-! ### Marks and words -/

lemma opens_bracket (cs : List Char) : Opens (.punct "[") ('[' :: cs) cs := ⟨rfl, fun _ => rfl, rfl⟩
lemma opens_unbracket (cs : List Char) : Opens (.punct "]") (']' :: cs) cs := ⟨rfl, fun _ => rfl, rfl⟩
lemma opens_brace (cs : List Char) : Opens (.punct "\x7b") ('\x7b' :: cs) cs :=
  ⟨rfl, fun _ => rfl, rfl⟩
lemma opens_unbrace (cs : List Char) : Opens (.punct "\x7d") ('\x7d' :: cs) cs :=
  ⟨rfl, fun _ => rfl, rfl⟩
lemma opens_comma (cs : List Char) : Opens (.punct ",") (',' :: cs) cs := ⟨rfl, fun _ => rfl, rfl⟩

/-- How text goes on where the printer ends a value: with a comma, a semicolon or a new line. -/
inductive Ends : List Char → Prop where
  | comma (cs : List Char) : Ends (',' :: cs)
  | semicolon (cs : List Char) : Ends (';' :: cs)
  | newline (cs : List Char) : Ends ('\n' :: cs)

lemma opens_null {rest : List Char} (h : Ends rest) :
    Opens (.word "null") ("null".toList ++ rest) rest := by
  cases h <;> exact ⟨rfl, fun _ => rfl, rfl⟩

lemma opens_true {rest : List Char} (h : Ends rest) :
    Opens (.word "true") ("true".toList ++ rest) rest := by
  cases h <;> exact ⟨rfl, fun _ => rfl, rfl⟩

lemma opens_false {rest : List Char} (h : Ends rest) :
    Opens (.word "false") ("false".toList ++ rest) rest := by
  cases h <;> exact ⟨rfl, fun _ => rfl, rfl⟩

/-! ### Strings -/

/-- The digits of a control character are those of its code. -/
lemma fourDigits_control {n : Nat} (h : n < 32) (cs : List Char) :
    fourDigits ('0' :: '0' :: hexDigit (n / 16) :: hexDigit n :: cs) = .ok (n, cs) := by
  have hdigits : ∀ n < 32,
      isDigitOf 16 (hexDigit (n / 16)) = true ∧ isDigitOf 16 (hexDigit n) = true ∧
        valueOf 16 ['0', '0', hexDigit (n / 16), hexDigit n] = n := by decide
  obtain ⟨hhigh, hlow, hvalue⟩ := hdigits n h
  have hzero : isDigitOf 16 '0' = true := by decide
  simp [fourDigits, hhigh, hlow, hvalue, hzero]

/-- A control character is read back from its code. -/
lemma escape_control {n : Nat} (h : n < 32) (cs : List Char) :
    escape false ('u' :: '0' :: '0' :: hexDigit (n / 16) :: hexDigit n :: cs) = .ok ([n], cs) := by
  have hhigh : isHigh n = false := by
    simp only [isHigh, Bool.and_eq_false_iff, decide_eq_false_iff_not]
    omega
  change codeEscape ('0' :: '0' :: hexDigit (n / 16) :: hexDigit n :: cs) = _
  simp only [codeEscape, fourDigits_control h]
  simp [bind, Except.bind, hhigh, pure, Except.pure]

/-- A character of a string is read back from how it is written. -/
lemma stringUnits_escape (c : Char) (fuel : Nat) (done : List Nat) (cs : List Char) :
    stringUnits '"' (fuel + 1) done (Json.escape c ++ cs)
      = stringUnits '"' fuel (c.toNat :: done) cs := by
  unfold Json.escape
  split
  · subst_vars; rfl
  split
  · subst_vars; rfl
  split
  · subst_vars; rfl
  split
  · subst_vars; rfl
  split
  · subst_vars; rfl
  split
  · rename_i h
    rw [h]
    rfl
  split
  · rename_i h
    rw [h]
    rfl
  split
  · rename_i h
    simp only [List.cons_append, List.nil_append, stringUnits]
    simp [escape_control h]
  · rename_i hquote hback hfeed hreturn _ _ _ _
    simp [stringUnits, hquote, hback, hfeed, hreturn]

/-- A string is read back from how its characters are written. -/
lemma stringUnits_quoted (s : List Char) (fuel : Nat) (done : List Nat) (rest : List Char)
    (h : s.length < fuel) :
    stringUnits '"' fuel done (s.flatMap Json.escape ++ '"' :: rest)
      = (.ok ((s.map Char.toNat).reverse ++ done), rest) := by
  induction s generalizing fuel done with
  | nil =>
    obtain ⟨fuel, rfl⟩ := Nat.exists_eq_succ_of_ne_zero (Nat.ne_of_gt h)
    rfl
  | cons c s ih =>
    obtain ⟨fuel, rfl⟩ := Nat.exists_eq_succ_of_ne_zero (Nat.ne_of_gt (Nat.lt_of_le_of_lt (Nat.zero_le _) h))
    rw [List.flatMap_cons, List.append_assoc, stringUnits_escape, ih]
    · simp
    · simpa using h

/-- A character is no half of a pair. -/
lemma toNat_not_surrogate (c : Char) : (isHigh c.toNat || isLow c.toNat) = false := by
  have hvalid := c.valid
  simp only [isHigh, isLow, Bool.or_eq_false_iff, Bool.and_eq_false_iff, decide_eq_false_iff_not]
  rcases hvalid with h | h
  · have hlt : c.toNat < 0xD800 := h
    omega
  · have hgt : 0xDFFF < c.toNat := h.1
    omega

/-- Characters are the same after they were code units. -/
lemma joinUnits_map_toNat (s : List Char) : joinUnits (s.map Char.toNat) = s := by
  induction s with
  | nil => rfl
  | cons c s ih =>
    have hc := toNat_not_surrogate c
    cases s with
    | nil => simp [joinUnits, hc, Char.ofNat_toNat]
    | cons d s =>
      obtain ⟨hhigh, hlow⟩ := Bool.or_eq_false_iff.mp hc
      simp only [List.map_cons] at ih ⊢
      simp [joinUnits, hhigh, hlow, ih, Char.ofNat_toNat]

/-- A string has no more characters than are written for it. -/
lemma length_le_length_escape (s : List Char) : s.length ≤ (s.flatMap Json.escape).length := by
  induction s with
  | nil => exact Nat.le_refl _
  | cons c s ih =>
    have hc : 1 ≤ (Json.escape c).length := by
      unfold Json.escape
      repeat' split
      all_goals simp
    simp only [List.flatMap_cons, List.length_append, List.length_cons]
    omega

/-- A quoted string is one token. -/
lemma opens_quote (s : String) (rest : List Char) :
    Opens (.string s) ((quote s).toList ++ rest) rest := by
  set body := s.toList.flatMap Json.escape ++ '"' :: rest with hbody
  have htext : (quote s).toList ++ rest = '"' :: body := by simp [quote, hbody]
  have hfuel : s.toList.length < body.length + 1 := by
    have hlength := length_le_length_escape s.toList
    simp only [hbody, List.length_append]
    omega
  have hunits : stringUnits '"' (body.length + 1) [] body
      = (.ok ((s.toList.map Char.toNat).reverse ++ []), rest) :=
    stringUnits_quoted s.toList _ [] rest hfuel
  rw [htext]
  refine ⟨?_, fun _ => rfl, rfl⟩
  simp [tokenAt, hunits, textOf, joinUnits_map_toNat]

/-! ### Numbers -/

/-- The ten digits. -/
lemma eq_of_isDigit {c : Char} (h : c.isDigit = true) :
    c = '0' ∨ c = '1' ∨ c = '2' ∨ c = '3' ∨ c = '4' ∨ c = '5' ∨ c = '6' ∨ c = '7' ∨ c = '8' ∨
      c = '9' := by
  rw [Char.isDigit, Bool.and_eq_true, decide_eq_true_eq, decide_eq_true_eq] at h
  obtain ⟨hlower, hupper⟩ := h
  have hle : 48 ≤ c.toNat := hlower
  have hge : c.toNat ≤ 57 := hupper
  have hdigits : ∀ k < 10, Char.ofNat (48 + k) ∈
      ['0', '1', '2', '3', '4', '5', '6', '7', '8', '9'] := by decide
  have hmem := hdigits (c.toNat - 48) (by omega)
  rw [show 48 + (c.toNat - 48) = c.toNat by omega, Char.ofNat_toNat] at hmem
  simpa using hmem

/-- A digit is one of the base ten, with the value that its place among the digits gives it. -/
lemma digitValue?_of_isDigit {c : Char} (h : c.isDigit = true) :
    digitValue? c = some (c.toNat - '0'.toNat) ∧ isDigitOf 10 c = true ∧ c ≠ '_' := by
  rcases eq_of_isDigit h with rfl | rfl | rfl | rfl | rfl | rfl | rfl | rfl | rfl | rfl <;> decide

/-- The digits of a number. -/
lemma isDigit_of_mem {n : Nat} {c : Char} (h : c ∈ Nat.toDigits 10 n) : c.isDigit = true :=
  Nat.isDigit_of_mem_toDigits (by decide) (by decide) h

/-- The value of the digits of a number is the number. -/
lemma valueOf_toDigits (n : Nat) : valueOf 10 (Nat.toDigits 10 n) = n := by
  have hfold : ∀ (ds : List Char) (k : Nat), (∀ d ∈ ds, d.isDigit = true) →
      ds.foldl (fun n d => 10 * n + (digitValue? d).getD 0) k = Nat.ofDigitChars 10 ds k := by
    intro ds
    induction ds with
    | nil => simp
    | cons d ds ih =>
      intro k hds
      rw [List.foldl_cons, (digitValue?_of_isDigit (hds d (by simp))).1, Nat.ofDigitChars_cons]
      exact ih _ fun e he => hds e (List.mem_cons_of_mem d he)
  rw [valueOf, hfold _ _ fun d hd => isDigit_of_mem hd, Nat.ofDigitChars_ten_toDigits]

/-- Only zero is written with a zero in front. -/
lemma head?_toDigits_ne {n : Nat} (h : n ≠ 0) : (Nat.toDigits 10 n).head? ≠ some '0' := by
  induction n using Nat.strongRecOn with
  | _ n ih =>
    rw [Nat.toDigits_eq_if (by decide)]
    split
    · have hall : ∀ k < 10, k ≠ 0 → [k.digitChar].head? ≠ some '0' := by decide
      exact hall n (by assumption) h
    · rw [List.head?_append_of_ne_nil _ Nat.toDigits_ne_nil]
      exact ih (n / 10) (by omega) (by omega)

/-- The digits in front of a text that no digit starts. -/
lemma digitsOf_append {ds rest : List Char} (hds : ∀ d ∈ ds, d.isDigit = true) (hrest : Ends rest) :
    digitsOf 10 (ds ++ rest) = (ds, rest) := by
  have hdigit : ∀ d ∈ ds, (isDigitOf 10 d || decide (d = '_')) = true := by
    intro d hd
    simp [(digitValue?_of_isDigit (hds d hd)).2.1]
  have hstop : rest.takeWhile (fun c => isDigitOf 10 c || decide (c = '_')) = [] ∧
      rest.dropWhile (fun c => isDigitOf 10 c || decide (c = '_')) = rest := by
    cases hrest <;> exact ⟨rfl, rfl⟩
  have hfilter : ds.filter (fun c => decide (c ≠ '_')) = ds := by
    refine List.filter_eq_self.mpr fun d hd => ?_
    simp [(digitValue?_of_isDigit (hds d hd)).2.2]
  unfold digitsOf
  rw [List.takeWhile_append_of_pos hdigit, List.dropWhile_append_of_pos hdigit, hstop.1, hstop.2,
    List.append_nil]
  exact congrArg (·, rest) hfilter

/-- A number without a fraction or an exponent. -/
lemma decimalNumber_of_ends (ds : List Char) {rest : List Char} (hrest : Ends rest) :
    decimalNumber ds rest = (.number (Binary64.ofDecimal false (valueOf 10 ds) 0), rest) := by
  have hvalue : decimalNumber ds rest
      = (.number (Binary64.ofDecimal false (valueOf 10 (ds ++ [])) 0), rest) := by
    cases hrest <;> rfl
  rw [hvalue, List.append_nil]

/-- A number is read back from its digits. -/
lemma plainNumber_toDigits (n : Nat) {rest : List Char} (hrest : Ends rest) :
    plainNumber (Nat.toDigits 10 n ++ rest)
      = (.number (Binary64.ofDecimal false n 0), rest) := by
  have hdigits : digitsOf 10 (Nat.toDigits 10 n ++ rest) = (Nat.toDigits 10 n, rest) :=
    digitsOf_append (fun d hd => isDigit_of_mem hd) hrest
  have hzero : (decide ((Nat.toDigits 10 n ++ rest).head? = some '0') &&
      decide (rest.length + 1 < (Nat.toDigits 10 n ++ rest).length)) = false := by
    by_cases hn : n = 0
    · subst hn
      simp
    · have hhead : (Nat.toDigits 10 n ++ rest).head? ≠ some '0' := by
        rw [List.head?_append_of_ne_nil _ Nat.toDigits_ne_nil]
        exact head?_toDigits_ne hn
      rw [decide_eq_false hhead, Bool.false_and]
  simp only [plainNumber, hdigits, hzero]
  rw [decimalNumber_of_ends _ hrest, valueOf_toDigits]
  cases hrest <;> rfl

/-- A number that starts with no mark of a base is a plain one. -/
lemma numberAt_toDigits (n : Nat) {rest : List Char} (hrest : Ends rest) :
    numberAt (Nat.toDigits 10 n ++ rest) = plainNumber (Nat.toDigits 10 n ++ rest) := by
  by_cases hn : n = 0
  · subst hn
    cases hrest <;> rfl
  · have hhead := head?_toDigits_ne hn
    cases hds : Nat.toDigits 10 n with
    | nil => exact absurd hds Nat.toDigits_ne_nil
    | cons d ds =>
      have hd : d ≠ '0' := by simpa [hds] using hhead
      rw [List.cons_append, numberAt]
      intro c cs heq
      exact absurd (List.cons.inj heq).1 hd

/-- A digit is neither a blank nor the start of a comment, and a minus before it is a token of its
own. -/
lemma front_of_isDigit {d : Char} (hd : d.isDigit = true) (cs : List Char) :
    (∀ broken, skipGap .between broken (d :: cs) = (broken, d :: cs)) ∧
      opensConflict (d :: cs) = false ∧ Opens (.punct "-") ('-' :: d :: cs) (d :: cs) := by
  rcases eq_of_isDigit hd with rfl | rfl | rfl | rfl | rfl | rfl | rfl | rfl | rfl | rfl <;>
    exact ⟨fun _ => rfl, rfl, rfl, fun broken => by cases broken <;> rfl, rfl⟩

/-- The digits of a number are one token. -/
lemma opens_toDigits (n : Nat) {rest : List Char} (hrest : Ends rest) :
    Opens (.number (Binary64.ofDecimal false n 0)) (Nat.toDigits 10 n ++ rest) rest := by
  have htoken : numberAt (Nat.toDigits 10 n ++ rest) = _ :=
    (numberAt_toDigits n hrest).trans (plainNumber_toDigits n hrest)
  cases hds : Nat.toDigits 10 n with
  | nil => exact absurd hds Nat.toDigits_ne_nil
  | cons d ds =>
    have hd : d.isDigit = true := isDigit_of_mem (by rw [hds]; exact List.mem_cons_self)
    have hquote : ¬ (decide (d = '"') || decide (d = '\'')) = true := by
      intro h
      simp only [Bool.or_eq_true, decide_eq_true_eq] at h
      rcases h with rfl | rfl <;> exact absurd hd (by decide)
    obtain ⟨hgap, hconflict, -⟩ := front_of_isDigit hd (ds ++ rest)
    rw [hds, List.cons_append] at htoken
    refine ⟨?_, hgap, hconflict⟩
    rw [List.cons_append, tokenAt, if_neg hquote, if_pos (by simp [hd]), htoken]

/-- A minus before the digits of a number is a token of its own. -/
lemma opens_minus (n : Nat) (rest : List Char) :
    Opens (.punct "-") ('-' :: (Nat.toDigits 10 n ++ rest)) (Nat.toDigits 10 n ++ rest) := by
  cases hds : Nat.toDigits 10 n with
  | nil => exact absurd hds Nat.toDigits_ne_nil
  | cons d ds =>
    have hd : d.isDigit = true := isDigit_of_mem (by rw [hds]; exact List.mem_cons_self)
    exact (front_of_isDigit hd (ds ++ rest)).2.2

end PageConfig.Source
