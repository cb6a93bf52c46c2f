import Mathlib.Data.List.Basic
import PageConfig.Json.Value

/-!
# The grammar of JSON

What JSON text is, said without a reader: `IsValue` are the texts of JSON
values, `Quoted` the texts of strings together with their characters, and
`Writes` the texts of strings and lists as values.  Blanks may stand around
every item, key and value.

A string can be looked at in two ways.  Strictly, an escaped code stands for a
character, alone or as half of a pair; loosely, any four digits will do, and the
character is not asked for.
-/

namespace PageConfig.Json

/-! ### Strings -/

/-- Blanks between tokens. -/
def Blanks (text : List Char) : Prop := ∀ c ∈ text, c ∈ [' ', '\n', '\t', '\r']

instance (text : List Char) : Decidable (Blanks text) := List.decidableBAll _ text

/-- Blanks behind blanks are blanks. -/
lemma Blanks.append {text rest : List Char} (h : Blanks text) (hrest : Blanks rest) :
    Blanks (text ++ rest) := by
  intro c hc
  rcases List.mem_append.mp hc with hc | hc
  · exact h c hc
  · exact hrest c hc

/-- A hexadecimal digit, small or capital, and its value. -/
def HexDigit (c : Char) (n : Nat) : Prop :=
  n < 16 ∧ (c = Nat.digitChar n ∨ c = (Nat.digitChar n).toUpper)

/-- Four hexadecimal digits and their value. -/
inductive HexFour : List Char → Nat → Prop where
  | mk {a b c d : Char} {i j k l : Nat} (ha : HexDigit a i) (hb : HexDigit b j)
      (hc : HexDigit c k) (hd : HexDigit d l) : HexFour [a, b, c, d] (4096 * i + 256 * j + 16 * k + l)

/-- The letters that stand for a character after a backslash, with that character. -/
def shortEscapes : List (Char × Char) :=
  [('"', '"'), ('\\', '\\'), ('/', '/'), ('b', Char.ofNat 8), ('f', Char.ofNat 12), ('n', '\n'),
    ('r', '\r'), ('t', '\t')]

/-- How a character can be written in a string. -/
inductive Spelling (strict : Bool) : List Char → Char → Prop where
  | plain {c : Char} (hcontrol : 32 ≤ c.toNat) (hquote : c ≠ '"') (hslash : c ≠ '\\') :
      Spelling strict [c] c
  | short {letter c : Char} (h : (letter, c) ∈ shortEscapes) : Spelling strict ['\\', letter] c
  | code {c : Char} {ds : List Char} (hstrict : strict = true) (h : HexFour ds c.toNat) :
      Spelling strict ('\\' :: 'u' :: ds) c
  /-- A character above 16 bits is written as a pair of codes. -/
  | pair {c : Char} {ds es : List Char} {n m : Nat} (hstrict : strict = true) (hn : HexFour ds n)
      (hm : HexFour es m) (hfirst : 0xD800 ≤ n ∧ n ≤ 0xDBFF) (hsecond : 0xDC00 ≤ m ∧ m ≤ 0xDFFF)
      (hc : c.toNat = (n - 0xD800) * 0x400 + (m - 0xDC00) + 0x10000) :
      Spelling strict ('\\' :: 'u' :: ds ++ '\\' :: 'u' :: es) c
  /-- A code that nobody asks for, in the place of whose character a blank stands. -/
  | loose {ds : List Char} {n : Nat} (hloose : strict = false) (h : HexFour ds n) :
      Spelling strict ('\\' :: 'u' :: ds) ' '

/-- How characters can be written in a string, one after another. -/
inductive Spells (strict : Bool) : List Char → List Char → Prop where
  | nil : Spells strict [] []
  | cons {piece text cs : List Char} {c : Char} (h : Spelling strict piece c)
      (hs : Spells strict text cs) : Spells strict (piece ++ text) (c :: cs)

/-- A string in quotes, and its characters. -/
def Quoted (strict : Bool) (text cs : List Char) : Prop :=
  ∃ body, Spells strict body cs ∧ text = '"' :: (body ++ ['"'])

/-! ### Numbers -/

/-- One or more digits. -/
def Digits (text : List Char) : Prop := text ≠ [] ∧ ∀ c ∈ text, c.isDigit = true

instance (text : List Char) : Decidable (Digits text) :=
  @instDecidableAnd _ _ _ (List.decidableBAll _ text)

/-- The whole part of a number. -/
def IsWhole (text : List Char) : Prop := text = ['0'] ∨ Digits text ∧ text.head? ≠ some '0'

/-- The digits after the point, if there are any. -/
def IsFraction (text : List Char) : Prop := text = [] ∨ ∃ ds, Digits ds ∧ text = '.' :: ds

/-- The exponent of a number, if it has one. -/
def IsExponent (text : List Char) : Prop :=
  text = [] ∨ ∃ mark ∈ ['e', 'E'], ∃ sign ∈ [[], ['+'], ['-']], ∃ ds, Digits ds ∧
    text = mark :: (sign ++ ds)

/-- The text of a number. -/
inductive IsNumber : List Char → Prop where
  | mk {sign whole fraction exponent : List Char} (hsign : sign ∈ [[], ['-']])
      (hwhole : IsWhole whole) (hfraction : IsFraction fraction) (hexponent : IsExponent exponent) :
      IsNumber (sign ++ (whole ++ (fraction ++ exponent)))

/-! ### Values -/

/-- A text with blanks around it. -/
structure Item where
  before : List Char
  inner : List Char
  after : List Char

namespace Item

/-- The item as it is written. -/
def text (i : Item) : List Char := i.before ++ (i.inner ++ i.after)

/-- There is nothing but blanks around the text. -/
structure Padded (i : Item) : Prop where
  before : Blanks i.before
  after : Blanks i.after

instance (i : Item) : Decidable i.Padded :=
  decidable_of_iff (Blanks i.before ∧ Blanks i.after)
    ⟨fun h => ⟨h.1, h.2⟩, fun h => ⟨h.before, h.after⟩⟩

end Item

/-- A field of an object as it is laid out. -/
structure Member where
  key : Item
  value : Item

namespace Member

/-- The field as it is written. -/
def text (m : Member) : List Char := m.key.text ++ ':' :: m.value.text

/-- There is nothing but blanks around the key and the value. -/
structure Padded (m : Member) : Prop where
  key : m.key.Padded
  value : m.value.Padded

instance (m : Member) : Decidable m.Padded :=
  decidable_of_iff (m.key.Padded ∧ m.value.Padded)
    ⟨fun h => ⟨h.1, h.2⟩, fun h => ⟨h.key, h.value⟩⟩

end Member

/-- Pieces with commas between them. -/
def separated : List (List Char) → List Char
  | [] => []
  | piece :: pieces => piece ++ pieces.flatMap (',' :: ·)

/-- Pieces between marks; blanks may stand before the last mark even if there are no pieces. -/
def enclosed (left : Char) (pieces : List (List Char)) (blank : List Char) (right : Char) :
    List Char :=
  left :: (separated pieces ++ (blank ++ [right]))

/-- Pieces between marks, in front of more text. -/
lemma enclosed_append (left : Char) (pieces : List (List Char)) (blank : List Char) (right : Char)
    (rest : List Char) :
    enclosed left pieces blank right ++ rest
      = left :: (separated pieces ++ (blank ++ right :: rest)) := by
  simp [enclosed]

/-- Two pieces have a comma between them. -/
lemma separated_cons_cons (p q : List Char) (ps : List (List Char)) :
    separated (p :: q :: ps) = p ++ ',' :: separated (q :: ps) := by
  simp [separated]

lemma separated_singleton (p : List Char) : separated [p] = p := by
  simp [separated]

/-- Pieces are at most one more than the characters they are written with. -/
lemma length_le_separated (pieces : List (List Char)) :
    pieces.length ≤ (separated pieces).length + 1 := by
  have hflat : ∀ ps : List (List Char), ps.length ≤ (ps.flatMap (',' :: ·)).length := by
    intro ps
    induction ps with
    | nil => simp
    | cons p ps ih =>
      rw [List.flatMap_cons, List.length_cons, List.length_append, List.length_cons]
      omega
  cases pieces with
  | nil => simp
  | cons p ps =>
    have hps := hflat ps
    rw [separated, List.length_cons, List.length_append]
    omega

/-- The texts of JSON values. -/
inductive IsValue : List Char → Prop where
  | word {w : String} (h : w ∈ ["null", "true", "false"]) : IsValue w.toList
  | number {text : List Char} (h : IsNumber text) : IsValue text
  | string {text cs : List Char} (h : Quoted false text cs) : IsValue text
  | array {items : List Item} {blank : List Char} (hblank : Blanks blank)
      (hpadded : ∀ i ∈ items, i.Padded) (hitems : ∀ i ∈ items, IsValue i.inner) :
      IsValue (enclosed '[' (items.map Item.text) blank ']')
  | object {members : List Member} {blank : List Char} (hblank : Blanks blank)
      (hpadded : ∀ m ∈ members, m.Padded)
      (hkeys : ∀ m ∈ members, ∃ cs, Quoted false m.key.inner cs)
      (hvalues : ∀ m ∈ members, IsValue m.value.inner) :
      IsValue (enclosed '\x7b' (members.map Member.text) blank '\x7d')

/-- The texts of a string, or of a list, as a value. -/
inductive Writes : Value → List Char → Prop where
  | string {s : String} {text : List Char} (h : Quoted true text s.toList) :
      Writes (.string s) text
  | array {items : List (Item × Value)} {blank : List Char} (hblank : Blanks blank)
      (hpadded : ∀ i ∈ items, i.1.Padded) (hitems : ∀ i ∈ items, Writes i.2 i.1.inner) :
      Writes (.array (items.map Prod.snd)) (enclosed '[' (items.map fun i => i.1.text) blank ']')

end PageConfig.Json
