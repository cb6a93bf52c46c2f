import PageConfig.Json.Reader
import PageConfig.Proofs.Json.Grammar

/-!
# Reading what the grammar allows

A reader that succeeds consumes the front of its text, so that a run is followed
from one bind to the next (`bind_ok`).  On a text that the grammar allows, in
front of any other text, a reader stops where the first text ends: a string is
read to its closing quote, in whatever way its characters are written
(`stringFrom_spells`), and a list to the mark that ends it, item by item
(`items_true`).

Every reader of a token passes over the blanks in front of it.  That is why the
blanks behind one item can be left to the reader that looks for the next one.
-/

namespace PageConfig.Json.Reader

variable {α β : Type} {text rest : List Char}

/-! ### Single steps -/

/-- A reader after one that succeeds. -/
lemma bind_ok {r : Reader α} {a : α} (h : r text = .ok (a, rest)) (f : α → Reader β) :
    (r >>= f) text = f a rest := by
  change (r text >>= fun p => f p.1 p.2) = f a rest
  rw [h]
  rfl

/-- A reader after one or another of two that do the same, each on its text. -/
lemma bind_run_congr {r r' : Reader α} (h : r text = r' rest) (f : α → Reader β) :
    (r >>= f) text = (r' >>= f) rest := by
  change (r text >>= fun p => f p.1 p.2) = (r' rest >>= fun p => f p.1 p.2)
  rw [h]

lemma peek_run (text : List Char) : peek text = .ok (text.head?, text) := rfl

lemma skip_run (c : Char) (rest : List Char) : skip (c :: rest) = .ok ((), rest) := rfl

/-- Blanks are passed over. -/
lemma isBlank_of_blanks (h : Blanks text) : ∀ c ∈ text, isBlank c = true := by
  intro c hc
  have hall : ∀ c ∈ [' ', '\n', '\t', '\r'], isBlank c = true := by simp [isBlank]
  exact hall c (h c hc)

/-- The next token does not depend on the blanks before it. -/
lemma peekToken_append (h : Blanks text) (rest : List Char) :
    peekToken (text ++ rest) = peekToken rest := by
  rw [peekToken, peekToken, List.dropWhile_append_of_pos (isBlank_of_blanks h)]

/-- The next token is at the next character, if that is not blank. -/
lemma peekToken_cons {c : Char} (hc : isBlank c = false) (rest : List Char) :
    peekToken (c :: rest) = .ok (some c, c :: rest) := by
  rw [peekToken, List.dropWhile_cons_of_neg (by simp [hc])]
  rfl

/-- Blanks, and the token after them. -/
lemma peekToken_blanks (h : Blanks text) {c : Char} (hc : isBlank c = false) (rest : List Char) :
    peekToken (text ++ c :: rest) = .ok (some c, c :: rest) := by
  rw [peekToken_append h, peekToken_cons hc]

/-- What looks for a token first does not depend on the blanks before it. -/
lemma peekToken_bind_append (h : Blanks text) (f : Option Char → Reader α) (rest : List Char) :
    (peekToken >>= f) (text ++ rest) = (peekToken >>= f) rest :=
  bind_run_congr (peekToken_append h rest) f

/-! ### Strings -/

/-- The value of a hexadecimal digit. -/
lemma hexValue?_of_hexDigit {c : Char} {n : Nat} (h : HexDigit c n) : hexValue? c = some n := by
  have hall : ∀ n < 16, hexValue? (Nat.digitChar n) = some n ∧
      hexValue? (Nat.digitChar n).toUpper = some n := by decide
  obtain ⟨hn, rfl | rfl⟩ := h
  · exact (hall n hn).1
  · exact (hall n hn).2

/-- Four digits are read. -/
lemma hexFour_append {n : Nat} (h : HexFour text n) (rest : List Char) :
    hexFour (text ++ rest) = .ok (n, rest) := by
  obtain ⟨ha, hb, hc, hd⟩ := h
  simp only [List.cons_append, List.nil_append, hexFour, hexValue?_of_hexDigit ha,
    hexValue?_of_hexDigit hb, hexValue?_of_hexDigit hc, hexValue?_of_hexDigit hd]

/-- The code of a character is read. -/
lemma codePoint_of_code {c : Char} (h : HexFour text c.toNat) (rest : List Char) :
    codePoint (text ++ rest) = .ok (c, rest) := by
  have hvalid : c.toNat < 0xD800 ∨ 0xDFFF < c.toNat := by
    rcases c.valid with hlow | hhigh
    · exact Or.inl hlow
    · exact Or.inr hhigh.1
  have hlow : ¬ (0xDC00 ≤ c.toNat && c.toNat ≤ 0xDFFF) = true := by
    simp only [Bool.and_eq_true, decide_eq_true_eq]
    omega
  have hhigh : ¬ (0xD800 ≤ c.toNat && c.toNat ≤ 0xDBFF) = true := by
    simp only [Bool.and_eq_true, decide_eq_true_eq]
    omega
  rw [codePoint, bind_ok (hexFour_append h rest), if_neg hlow, if_neg hhigh, Char.ofNat_toNat]
  rfl

/-- A mark that must come next, and does. -/
lemma pairMark_run (c : Char) (rest : List Char) : pairMark c (c :: rest) = .ok ((), rest) := by
  rw [pairMark, bind_ok (peek_run _)]
  simp only [List.head?_cons, if_true]
  rfl

/-- A pair of codes is read. -/
lemma codePoint_of_pair {c : Char} {ds es : List Char} {n m : Nat} (hn : HexFour ds n)
    (hm : HexFour es m) (hfirst : 0xD800 ≤ n ∧ n ≤ 0xDBFF) (hsecond : 0xDC00 ≤ m ∧ m ≤ 0xDFFF)
    (hc : c.toNat = (n - 0xD800) * 0x400 + (m - 0xDC00) + 0x10000) (rest : List Char) :
    codePoint (ds ++ '\\' :: 'u' :: (es ++ rest)) = .ok (c, rest) := by
  have hlow : ¬ (0xDC00 ≤ n && n ≤ 0xDFFF) = true := by
    simp only [Bool.and_eq_true, decide_eq_true_eq]
    omega
  have hhigh : (0xD800 ≤ n && n ≤ 0xDBFF) = true := by simpa using hfirst
  have hin : ¬ (m < 0xDC00 || m > 0xDFFF) = true := by
    simp only [Bool.or_eq_true, decide_eq_true_eq]
    omega
  rw [codePoint, bind_ok (hexFour_append hn _), if_neg hlow, if_pos hhigh,
    bind_ok (pairMark_run _ _), bind_ok (pairMark_run _ _), bind_ok (hexFour_append hm rest),
    if_neg hin, ← hc, Char.ofNat_toNat]
  rfl

/-- What a letter stands for after a backslash. -/
lemma plainEscape?_of_mem {letter c : Char} (h : (letter, c) ∈ shortEscapes) :
    letter ≠ 'u' ∧ plainEscape? letter = some c := by
  have hall : ∀ e ∈ shortEscapes, e.1 ≠ 'u' ∧ plainEscape? e.1 = some e.2 := by decide
  exact hall _ h

variable {strict : Bool}

/-- An escaped code is read as the character that it stands for. -/
lemma stringFrom_code {c : Char} (h : codePoint text = .ok (c, rest)) (fuel : Nat)
    (done : List Char) :
    stringFrom true (fuel + 1) done ('\\' :: 'u' :: text) = stringFrom true fuel (c :: done) rest := by
  rw [stringFrom, bind_ok (peek_run _)]
  simp only [List.head?_cons]
  rw [bind_ok (skip_run _ _), bind_ok (peek_run _)]
  simp only [List.head?_cons, if_true]
  rw [bind_ok (skip_run _ _), bind_ok h]

/-- One character of a string is read, in whatever way it is written. -/
lemma stringFrom_spelling {piece : List Char} {c : Char} (h : Spelling strict piece c) (fuel : Nat)
    (done rest : List Char) :
    stringFrom strict (fuel + 1) done (piece ++ rest) = stringFrom strict fuel (c :: done) rest := by
  cases h with
  | plain hcontrol hquote hslash =>
    rw [stringFrom, List.singleton_append, bind_ok (peek_run _)]
    simp only [List.head?_cons]
    rw [if_neg (by omega), bind_ok (skip_run _ _)]
  | short hmem =>
    obtain ⟨hne, hletter⟩ := plainEscape?_of_mem hmem
    rw [List.cons_append, List.singleton_append, stringFrom, bind_ok (peek_run _)]
    simp only [List.head?_cons]
    rw [bind_ok (skip_run _ _), bind_ok (peek_run _)]
    simp only [List.head?_cons, hletter]
    rw [bind_ok (skip_run _ _)]
  | code hstrict hcode =>
    subst hstrict
    exact stringFrom_code (codePoint_of_code hcode rest) fuel done
  | pair hstrict hn hm hfirst hsecond hc =>
    subst hstrict
    rw [List.append_assoc]
    exact stringFrom_code (codePoint_of_pair hn hm hfirst hsecond hc rest) fuel done
  | loose hloose hcode =>
    subst hloose
    rw [List.cons_append, List.cons_append, stringFrom, bind_ok (peek_run _)]
    simp only [List.head?_cons]
    rw [bind_ok (skip_run _ _), bind_ok (peek_run _)]
    simp only [List.head?_cons]
    rw [bind_ok (skip_run _ _), if_neg Bool.false_ne_true, bind_ok (hexFour_append hcode rest)]
    rfl

/-- No character is written as nothing. -/
lemma length_pos_of_spelling {piece : List Char} {c : Char} (h : Spelling strict piece c) :
    0 < piece.length := by
  cases h <;> simp

/-- All characters of a string are read, up to the quote that ends it. -/
lemma stringFrom_spells {cs : List Char} (h : Spells strict text cs) {fuel : Nat}
    (hfuel : text.length < fuel) (done rest : List Char) :
    stringFrom strict fuel done (text ++ '"' :: rest)
      = .ok (String.ofList (done.reverse ++ cs), rest) := by
  induction h generalizing fuel done with
  | nil =>
    obtain ⟨fuel, rfl⟩ := Nat.exists_eq_add_of_lt hfuel
    rw [List.append_nil, List.nil_append, stringFrom, bind_ok (peek_run _)]
    rfl
  | cons hpiece _ ih =>
    have hpos := length_pos_of_spelling hpiece
    rw [List.length_append] at hfuel
    obtain ⟨fuel, rfl⟩ : ∃ n, fuel = n + 1 := ⟨fuel - 1, by omega⟩
    rw [List.append_assoc, stringFrom_spelling hpiece, ih (by omega)]
    simp

/-- A string in quotes is read to its end. -/
lemma stringBody_quoted {s : String} (h : Quoted true text s.toList) (rest : List Char) :
    ∃ inner, text ++ rest = '"' :: inner ∧ stringBody inner = .ok (s, rest) := by
  obtain ⟨body, hbody, rfl⟩ := h
  refine ⟨body ++ '"' :: rest, by simp, ?_⟩
  rw [stringBody, stringFrom_spells hbody (by simp only [List.length_append]; omega)]
  simp

/-- A string in quotes is passed over. -/
lemma skipString_quoted {cs : List Char} (h : Quoted false text cs) (rest : List Char) :
    ∃ inner, text ++ rest = '"' :: inner ∧ skipString inner = .ok ((), rest) := by
  obtain ⟨body, hbody, rfl⟩ := h
  refine ⟨body ++ '"' :: rest, by simp, ?_⟩
  rw [skipString, stringFrom_spells hbody (by simp only [List.length_append]; omega)]
  rfl

/-! ### Marks -/

/-- A list that is at its end. -/
lemma moreItems_end (first : Bool) (h : Blanks text) (rest : List Char) :
    moreItems first (text ++ ']' :: rest) = .ok (false, ']' :: rest) := by
  rw [moreItems, bind_ok (peekToken_blanks h rfl rest)]
  rfl

/-- A list that goes on with its first item. -/
lemma moreItems_first {c : Char} (h : Blanks text) (hc : isBlank c = false) (hne : c ≠ ']')
    (rest : List Char) : moreItems true (text ++ c :: rest) = .ok (true, c :: rest) := by
  rw [moreItems, bind_ok (peekToken_blanks h hc rest)]
  simp only [if_true]
  rfl

/-- A list that goes on with another item. -/
lemma moreItems_comma {before : List Char} {c : Char} (hbefore : Blanks before) (h : Blanks text)
    (hc : isBlank c = false) (hne : c ≠ ']') (rest : List Char) :
    moreItems false (before ++ ',' :: (text ++ c :: rest)) = .ok (true, c :: rest) := by
  have hcomma : ',' ≠ ']' := by decide
  rw [moreItems, bind_ok (peekToken_blanks hbefore rfl _)]
  simp only [Bool.false_eq_true, if_false, if_true]
  rw [bind_ok (skip_run _ _), bind_ok (peekToken_blanks h hc rest)]
  simp only []
  rfl

/-- An object that is at its end. -/
lemma moreFields_end (first : Bool) (h : Blanks text) (rest : List Char) :
    moreFields first (text ++ '\x7d' :: rest) = .ok (false, '\x7d' :: rest) := by
  rw [moreFields, bind_ok (peekToken_blanks h rfl rest)]
  rfl

/-- An object that goes on with its first field. -/
lemma moreFields_first (h : Blanks text) (rest : List Char) :
    moreFields true (text ++ '"' :: rest) = .ok (true, '"' :: rest) := by
  rw [moreFields, bind_ok (peekToken_blanks h rfl rest)]
  rfl

/-- An object that goes on with another field. -/
lemma moreFields_comma {before : List Char} (hbefore : Blanks before) (h : Blanks text)
    (rest : List Char) :
    moreFields false (before ++ ',' :: (text ++ '"' :: rest)) = .ok (true, '"' :: rest) := by
  have hcomma : ',' ≠ '\x7d' := by decide
  rw [moreFields, bind_ok (peekToken_blanks hbefore rfl _)]
  simp only [Bool.false_eq_true, if_false, if_true]
  rw [bind_ok (skip_run _ _), bind_ok (peekToken_blanks h rfl rest)]
  rfl

/-- The colon after a key is passed over. -/
lemma colon_append (h : Blanks text) (rest : List Char) :
    colon (text ++ ':' :: rest) = .ok ((), rest) := by
  rw [colon, bind_ok (peekToken_blanks h rfl rest)]
  rfl

lemma endList_run (rest : List Char) : endList (']' :: rest) = .ok ((), rest) := rfl

lemma endObject_run (rest : List Char) : endObject ('\x7d' :: rest) = .ok ((), rest) := rfl

lemma remaining_run (text : List Char) : remaining text = .ok (text.length, text) := rfl

/-- At the end nothing is left but blanks. -/
lemma finish_blanks (h : Blanks text) : finish text = .ok ((), []) := by
  have htoken := peekToken_append h []
  rw [List.append_nil] at htoken
  rw [finish, bind_ok htoken]
  rfl

/-! ### Lists that are read -/

/-- The items of a list are read one after another, by a reader that reads each of them.  Blanks
may come first: those behind an item that was read before. -/
lemma items_false {item : Reader α} {xs : List (Item × α)} (hpadded : ∀ x ∈ xs, x.1.Padded)
    (hstart : ∀ x ∈ xs, ∃ c cs, x.1.inner = c :: cs ∧ isBlank c = false ∧ c ≠ ']')
    (hread : ∀ x ∈ xs, ∀ rest, item (x.1.inner ++ rest) = .ok (x.2, rest)) {before blank : List Char}
    (hbefore : Blanks before) (hblank : Blanks blank) {fuel : Nat} (hfuel : xs.length < fuel)
    (rest : List Char) :
    items item fuel false
        (before ++ ((xs.map fun x => x.1.text).flatMap (',' :: ·) ++ (blank ++ ']' :: rest)))
      = .ok (xs.map Prod.snd, ']' :: rest) := by
  induction xs generalizing fuel before with
  | nil =>
    obtain ⟨n, rfl⟩ : ∃ n, fuel = n + 1 := ⟨fuel - 1, by omega⟩
    rw [List.map_nil, List.flatMap_nil, List.nil_append, ← List.append_assoc, items,
      bind_ok (moreItems_end false (hbefore.append hblank) rest)]
    rfl
  | cons x xs ih =>
    obtain ⟨n, rfl⟩ : ∃ n, fuel = n + 1 := ⟨fuel - 1, by omega⟩
    have hx := hpadded x List.mem_cons_self
    obtain ⟨c, cs, hcs, hc, hne⟩ := hstart x List.mem_cons_self
    set tail := (xs.map fun x => x.1.text).flatMap (',' :: ·) ++ (blank ++ ']' :: rest) with htail
    have htext : before ++ (((x :: xs).map fun x => x.1.text).flatMap (',' :: ·)
        ++ (blank ++ ']' :: rest))
        = before ++ ',' :: (x.1.before ++ c :: (cs ++ (x.1.after ++ tail))) := by
      simp [Item.text, hcs, htail]
    have hitem : item (c :: (cs ++ (x.1.after ++ tail))) = .ok (x.2, x.1.after ++ tail) := by
      rw [← List.cons_append, ← hcs]
      exact hread x List.mem_cons_self _
    have hmore : items item n false (x.1.after ++ tail) = .ok (xs.map Prod.snd, ']' :: rest) :=
      ih (fun y hy => hpadded y (List.mem_cons_of_mem x hy))
        (fun y hy => hstart y (List.mem_cons_of_mem x hy))
        (fun y hy => hread y (List.mem_cons_of_mem x hy)) hx.after
        (by rw [List.length_cons] at hfuel; omega)
    rw [htext, items, bind_ok (moreItems_comma hbefore hx.before hc hne _)]
    simp only [if_true]
    rw [bind_ok hitem, bind_ok hmore]
    rfl

/-- The items of a list are read from the first one on, as they would be after a comma. -/
lemma items_true {item : Reader α} {xs : List (Item × α)} (hpadded : ∀ x ∈ xs, x.1.Padded)
    (hstart : ∀ x ∈ xs, ∃ c cs, x.1.inner = c :: cs ∧ isBlank c = false ∧ c ≠ ']')
    (hread : ∀ x ∈ xs, ∀ rest, item (x.1.inner ++ rest) = .ok (x.2, rest)) {blank : List Char}
    (hblank : Blanks blank) {fuel : Nat} (hfuel : xs.length < fuel) (rest : List Char) :
    items item fuel true (separated (xs.map fun x => x.1.text) ++ (blank ++ ']' :: rest))
      = .ok (xs.map Prod.snd, ']' :: rest) := by
  have hnil : Blanks [] := List.forall_mem_nil _
  have hfalse := items_false hpadded hstart hread hnil hblank hfuel rest
  obtain ⟨n, rfl⟩ : ∃ n, fuel = n + 1 := ⟨fuel - 1, by omega⟩
  rw [items] at hfalse ⊢
  rw [← hfalse]
  apply bind_run_congr
  cases xs with
  | nil => exact (moreItems_end true hblank rest).trans (moreItems_end false hblank rest).symm
  | cons x xs =>
    have hx := hpadded x List.mem_cons_self
    obtain ⟨c, cs, hcs, hc, hne⟩ := hstart x List.mem_cons_self
    obtain ⟨tail, htail⟩ : ∃ tail, separated ((x :: xs).map fun x => x.1.text)
        ++ (blank ++ ']' :: rest) = x.1.before ++ c :: tail := by
      simp [separated, Item.text, hcs]
    have hcomma : ((x :: xs).map fun x => x.1.text).flatMap (',' :: ·) ++ (blank ++ ']' :: rest)
        = ',' :: (x.1.before ++ c :: tail) := by
      rw [← htail]
      simp [separated]
    rw [hcomma, htail, moreItems_first hx.before hc hne, moreItems_comma hnil hx.before hc hne]

end PageConfig.Json.Reader
