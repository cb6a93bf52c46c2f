import PageConfig.Json.Fault

/-!
# Reading JSON

The reader walks the text once and keeps what is left of it.  Values can be
read in full or passed over; passing over checks the grammar but not the
meaning of escapes, and has no limit on nesting.
-/

namespace PageConfig.Json

open PageConfig.Decimal (Binary64 pow2)

/-- Readers consume text from the front. -/
abbrev Reader := StateT (List Char) (Except Fault)

namespace Reader

/-- Fails at the next character, which has been looked at. -/
def failAtNext {α : Type} (cause : Cause) : Reader α := fun rest => .error ⟨cause, rest, 1⟩

/-- Fails before the next character. -/
def failHere {α : Type} (cause : Cause) : Reader α := fun rest => .error ⟨cause, rest, 0⟩

/-- The next character. -/
def peek : Reader (Option Char) := fun rest => .ok (rest.head?, rest)

/-- Moves past the next character. -/
def skip : Reader Unit := fun rest => .ok ((), rest.drop 1)

/-- Whether a character is blank between tokens. -/
def isBlank (c : Char) : Bool := c = ' ' || c = '\n' || c = '\t' || c = '\r'

/-- The next character that is not blank. -/
def peekToken : Reader (Option Char) := fun rest =>
  let rest := rest.dropWhile isBlank
  .ok (rest.head?, rest)

/-! ### Words, numbers and strings -/

/-- The rest of a word whose first letter has been read. -/
def word : List Char → Reader Unit
  | [] => pure ()
  | c :: cs => do
    match ← peek with
    | none => failHere .endInValue
    | some d => if c = d then do skip; word cs else failAtNext .expectedWord

/-- The digits that come next. -/
def digits : Reader (List Char) := fun rest =>
  .ok (rest.takeWhile Char.isDigit, rest.dropWhile Char.isDigit)

/-- The value of digits. -/
def natOf (ds : List Char) : Nat := ds.foldl (fun n d => 10 * n + (d.toNat - '0'.toNat)) 0

/-- The digits of a number as they are kept: those that fit 64 bits, and how many were left out. -/
def keepDigits (start : Nat) (ds : List Char) : Nat × Nat :=
  ds.foldl (fun (n, dropped) d =>
    let m := 10 * n + (d.toNat - '0'.toNat)
    if dropped > 0 || m ≥ pow2 64 then (n, dropped + 1) else (m, 0)) (start, 0)

/-- A power of ten as a double. -/
def tenTo (n : Nat) : Binary64 := Binary64.ofDecimal false 1 n

/-- The double of `significand · 10 ^ exponent`, scaled by doubles; `none` if it is too large. -/
def scale : Nat → Binary64 → Int → Option Binary64
  | 0, f, _ => some f
  | fuel + 1, f, exponent =>
    if exponent.natAbs ≤ 308 then
      if exponent ≥ 0 then
        match f.mul (tenTo exponent.natAbs) with
        | .infinite _ => none
        | g => some g
      else some (f.div (tenTo exponent.natAbs))
    else match f with
      | .finite _ 0 _ => some f
      | _ => if exponent ≥ 0 then none else scale fuel (f.div (tenTo 308)) (exponent + 308)

/-- The digits after a point, of which there must be one. -/
def fraction : Reader (List Char) := do
  let ds ← digits
  if ds.isEmpty then
    match ← peek with
    | some _ => failAtNext .badNumber
    | none => failHere .endInValue
  else pure ds

/-- The sign of an exponent, if it has one. -/
def exponentSign : Reader Bool := do
  match ← peek with
  | some '+' => do skip; pure false
  | some '-' => do skip; pure true
  | _ => pure false

/-- How many digits of an exponent it takes to leave 32 bits, if they do. -/
def overflow? (ds : List Char) : Option Nat :=
  (List.range ds.length).findSome? fun k =>
    if natOf (ds.take (k + 1)) ≥ pow2 31 then some (k + 1) else none

/-- The exponent after its mark.  One that leaves 32 bits is too large at the digit that makes it
so, unless it belongs to zero or to a number that it makes small. -/
def exponent (zero : Bool) : Reader Int := do
  let negative ← exponentSign
  match ← peek with
  | none => failHere .endInValue
  | some c => if c.isDigit then pure () else failAtNext .badNumber
  let start ← get
  let ds ← digits
  match overflow? ds with
  | some k =>
    if zero || negative then pure () else do
      set (start.drop k)
      failHere .numberOutOfRange
  | none => pure ()
  pure (if negative then -(natOf ds : Int) else natOf ds)

/-- The whole part of a number: a lone zero, or digits that start with another one. -/
def wholePart : Reader (List Char) := do
  match ← peek with
  | none => failHere .endInValue
  | some '0' => do
    skip
    match ← peek with
    | some c => if c.isDigit then failAtNext .badNumber else pure ['0']
    | none => pure ['0']
  | some c => if c.isDigit then digits else failAtNext .badNumber

/-- A number whose sign has been read. -/
def number (negative : Bool) : Reader Value := do
  let (n, dropped) := keepDigits 0 (← wholePart)
  let (n, shift, exact) ← match ← peek with
    | some '.' => do
      skip
      let ds ← fraction
      if dropped > 0 then pure (n, (dropped : Int), false)
      else
        let (m, extra) := keepDigits n ds
        pure (m, -((ds.length - extra : Nat) : Int), false)
    | _ => pure (n, (dropped : Int), dropped = 0)
  let (e, exact) ← match ← peek with
    | some 'e' | some 'E' => do
      skip
      pure (← exponent (n = 0), false)
    | _ => pure ((0 : Int), exact)
  if exact && !negative then pure (.int n)
  else if exact && 0 < n && n ≤ pow2 63 then pure (.int (-n))
  else match scale 8 (Binary64.ofRatio false n 1) (shift + e) with
    | none => failHere .numberOutOfRange
    | some x => pure (.double (if negative then x.neg else x))

/-- Digits that are passed over, of which there must be one. -/
def skipDigits : Reader Unit := do
  if (← digits).isEmpty then failAtNext .badNumber else pure ()

/-- A number that is passed over: text that ends in it is a bad number. -/
def skipNumber : Reader Unit := do
  match ← peek with
  | none => failHere .badNumber
  | some _ => let _ ← wholePart
  match ← peek with
  | some '.' => do
    skip
    skipDigits
  | _ => pure ()
  match ← peek with
  | some 'e' | some 'E' => do
    skip
    let _ ← exponentSign
    skipDigits
  | _ => pure ()

/-- The value of a hexadecimal digit. -/
def hexValue? (c : Char) : Option Nat :=
  if '0' ≤ c && c ≤ '9' then some (c.toNat - '0'.toNat)
  else if 'a' ≤ c && c ≤ 'f' then some (c.toNat - 'a'.toNat + 10)
  else if 'A' ≤ c && c ≤ 'F' then some (c.toNat - 'A'.toNat + 10)
  else none

/-- Whether a text has so many bytes. -/
def hasBytes (n : Nat) (text : List Char) : Bool :=
  n ≤ (text.take n).foldl (fun size c => size + c.utf8Size) 0

/-- Four bytes that are hexadecimal digits. -/
def hexFour : Reader Nat := fun rest =>
  match rest with
  | a :: b :: c :: d :: after =>
    match hexValue? a, hexValue? b, hexValue? c, hexValue? d with
    | some a, some b, some c, some d => .ok (4096 * a + 256 * b + 16 * c + d, after)
    | _, _, _, _ => .error ⟨.badEscape, rest, 4⟩
  | _ => .error (if hasBytes 4 rest then ⟨.badEscape, rest, 4⟩ else ⟨.endInString, [], 0⟩)

/-- Exactly the character that must come next in an escaped pair. -/
def pairMark (c : Char) : Reader Unit := do
  match ← peek with
  | none => failHere .endInString
  | some d => if c = d then skip else failAtNext .cutEscape

/-- A character given by its code after `\u`, or by a pair of them. -/
def codePoint : Reader Char := do
  let n ← hexFour
  if 0xDC00 ≤ n && n ≤ 0xDFFF then failHere .loneSurrogate
  else if 0xD800 ≤ n && n ≤ 0xDBFF then do
    pairMark '\\'
    pairMark 'u'
    let m ← hexFour
    if m < 0xDC00 || m > 0xDFFF then failHere .loneSurrogate
    else pure (Char.ofNat ((n - 0xD800) * 0x400 + (m - 0xDC00) + 0x10000))
  else pure (Char.ofNat n)

/-- The character an escape letter stands for. -/
def plainEscape? (c : Char) : Option Char :=
  match c with
  | '"' => some '"'
  | '\\' => some '\\'
  | '/' => some '/'
  | 'b' => some (Char.ofNat 8)
  | 'f' => some (Char.ofNat 12)
  | 'n' => some '\n'
  | 'r' => some '\r'
  | 't' => some '\t'
  | _ => none

/-- The rest of a string whose opening quote has been read, after the characters in `done`
(last first).  With `strict` an escaped code has to be a character, and a control character has
been read when it is refused. -/
def stringFrom (strict : Bool) : Nat → List Char → Reader String
  | 0, _ => failHere .endInString
  | fuel + 1, done => do
    match ← peek with
    | none => failHere .endInString
    | some '"' => do
      skip
      pure (String.ofList done.reverse)
    | some '\\' => do
      skip
      match ← peek with
      | none => failHere .endInString
      | some 'u' => do
        skip
        let c ← if strict then codePoint else do
          let _ ← hexFour
          pure ' '
        stringFrom strict fuel (c :: done)
      | some c =>
        match plainEscape? c with
        | some d => do
          skip
          stringFrom strict fuel (d :: done)
        | none => failAtNext .badEscape
    | some c =>
      if c.toNat < 32 then
        if strict then failAtNext .controlCharacter else failHere .controlCharacter
      else do
        skip
        stringFrom strict fuel (c :: done)

/-- A string whose opening quote has been read. -/
def stringBody : Reader String := fun rest => stringFrom true (rest.length + 1) [] rest

/-- A string that is passed over. -/
def skipString : Reader Unit := fun rest =>
  (stringFrom false (rest.length + 1) [] rest).map fun (_, rest) => ((), rest)

/-! ### Lists and objects -/

/-- Whether a list goes on, at its first item or at the comma before another one. -/
def moreItems (first : Bool) : Reader Bool := do
  match ← peekToken with
  | none => failHere .endInList
  | some ']' => pure false
  | some c =>
    if first then pure true
    else if c = ',' then do
      skip
      match ← peekToken with
      | some ']' => failAtNext .trailingComma
      | some _ => pure true
      | none => failHere .endInValue
    else failAtNext .expectedListEnd

/-- Whether an object goes on with a key. -/
def moreFields (first : Bool) : Reader Bool := do
  match ← peekToken with
  | none => failHere .endInObject
  | some '\x7d' => pure false
  | some c =>
    if first then
      if c = '"' then pure true else failAtNext .keyNotString
    else if c = ',' then do
      skip
      match ← peekToken with
      | some '"' => pure true
      | some '\x7d' => failAtNext .trailingComma
      | some _ => failAtNext .keyNotString
      | none => failHere .endInValue
    else failAtNext .expectedObjectEnd

/-- The colon after a key. -/
def colon : Reader Unit := do
  match ← peekToken with
  | some ':' => skip
  | some _ => failAtNext .expectedColon
  | none => failHere .endInObject

/-- The end of a list. -/
def endList : Reader Unit := do
  match ← peekToken with
  | some ']' => skip
  | some ',' => do
    skip
    match ← peekToken with
    | some ']' => failAtNext .trailingComma
    | _ => failAtNext .trailingText
  | some _ => failAtNext .trailingText
  | none => failHere .endInList

/-- The end of an object. -/
def endObject : Reader Unit := do
  match ← peekToken with
  | some '\x7d' => skip
  | some ',' => failAtNext .trailingComma
  | some _ => failAtNext .trailingText
  | none => failHere .endInObject

/-- Reads items for as long as the list goes on. -/
def items {α : Type} (item : Reader α) : Nat → Bool → Reader (List α)
  | 0, _ => pure []
  | fuel + 1, first => do
    if ← moreItems first then
      let v ← item
      let vs ← items item fuel false
      pure (v :: vs)
    else pure []

/-- Reads fields for as long as the object goes on; a repeated key replaces its value. -/
def fieldsFrom (item : Reader Value) : Nat → Bool → Fields → Reader Fields
  | 0, _, done => pure done
  | fuel + 1, first, done => do
    if ← moreFields first then
      skip
      let key ← stringBody
      colon
      let v ← item
      fieldsFrom item fuel false (Fields.insert done key v)
    else pure done

/-- How much text is left, as a bound on what can be read from it. -/
def remaining : Reader Nat := fun rest => .ok (rest.length, rest)

/-- A value, nested at most so deep. -/
def value : Nat → Reader Value
  | 0 => failHere .tooDeep
  | depth + 1 => do
    match ← peekToken with
    | none => failHere .endInValue
    | some 'n' => do
      skip
      word "ull".toList
      pure .null
    | some 't' => do
      skip
      word "rue".toList
      pure (.bool true)
    | some 'f' => do
      skip
      word "alse".toList
      pure (.bool false)
    | some '-' => do
      skip
      number true
    | some '"' => do
      skip
      return .string (← stringBody)
    | some '[' => do
      skip
      let vs ← items (value depth) ((← remaining) + 1) true
      endList
      pure (.array vs)
    | some '\x7b' => do
      skip
      let fs ← fieldsFrom (value depth) ((← remaining) + 1) true []
      endObject
      pure (.object fs)
    | some c => if c.isDigit then number false else failAtNext .expectedValue

mutual

/-- A value that is passed over. -/
def skipValue : Nat → Reader Unit
  | 0 => failHere .tooDeep
  | fuel + 1 => do
    match ← peekToken with
    | none => failHere .endInValue
    | some 'n' => do
      skip
      word "ull".toList
    | some 't' => do
      skip
      word "rue".toList
    | some 'f' => do
      skip
      word "alse".toList
    | some '-' => do
      skip
      skipNumber
    | some '"' => do
      skip
      skipString
    | some '[' => do
      skip
      match ← peekToken with
      | none => failHere .endInList
      | some ']' => skip
      | some _ => skipItems fuel
    | some '\x7b' => do
      skip
      match ← peekToken with
      | none => failHere .endInObject
      | some '\x7d' => skip
      | some _ => skipFields fuel
    | some c => if c.isDigit then skipNumber else failAtNext .expectedValue

/-- The items of a list from one that is there, and its end. -/
def skipItems : Nat → Reader Unit
  | 0 => failHere .tooDeep
  | fuel + 1 => do
    skipValue fuel
    match ← peekToken with
    | none => failHere .endInList
    | some ']' => skip
    | some ',' => do
      skip
      skipItems fuel
    | some _ => failAtNext .expectedListEnd

/-- The fields of an object from one that is there, and its end. -/
def skipFields : Nat → Reader Unit
  | 0 => failHere .tooDeep
  | fuel + 1 => do
    match ← peekToken with
    | none => failHere .endInObject
    | some '"' => skip
    | some _ => failAtNext .keyNotString
    skipString
    colon
    skipValue fuel
    match ← peekToken with
    | none => failHere .endInObject
    | some '\x7d' => skip
    | some ',' => do
      skip
      skipFields fuel
    | some _ => failAtNext .expectedObjectEnd

end

/-- Nothing but blanks. -/
def finish : Reader Unit := do
  match ← peekToken with
  | none => pure ()
  | some _ => failAtNext .trailingText

end Reader

/-- How deep a value may nest. -/
def depthLimit : Nat := 128

/-- Reads a whole text as one value. -/
def read (text : String) : Except Fault Value :=
  (do
    let v ← Reader.value depthLimit
    Reader.finish
    pure v : Reader Value).run' text.toList

end PageConfig.Json
