import PageConfig.Source.Fault
import PageConfig.Source.Tree
import PageConfig.Text.Letter

/-!
# Tokens

Text is cut into tokens on demand, from the front.  A `Cursor` holds the
current token together with the text from it on and the text after it, so that
a place where the grammar reads text differently (a regular expression, a
template, the inside of a tag) can start again from the text itself.
-/

namespace PageConfig.Source

open PageConfig.Decimal (Binary64)
open PageConfig.Text (isNameStart isNamePart)

/-- A piece of template text: its code units, last first, and what is wrong with its escapes. -/
structure Piece where
  units : List Nat
  fault : Option Fault
deriving DecidableEq, Inhabited

/-- A token of the main grammar. -/
inductive Token where
  /-- A name or a keyword. -/
  | word (name : String)
  /-- A private name, without its hash. -/
  | hidden (name : String)
  | punct (text : String)
  | string (value : String)
  | number (value : Binary64)
  | bigint
  /-- A template up to its end, or up to its first substitution. -/
  | template (closed : Bool) (piece : Piece)
  /-- Text between tags. -/
  | text
  | bad (fault : Fault)
  | eof
deriving DecidableEq, Inhabited

/-! ### Words -/

/-- Words of the grammar that are no names, or only in some places. -/
def keywords : List String :=
  ["await", "break", "case", "catch", "class", "const", "continue", "debugger", "default", "delete",
   "do", "else", "export", "extends", "false", "finally", "for", "function", "if", "import", "in",
   "instanceof", "let", "new", "null", "return", "super", "switch", "this", "throw", "true", "try",
   "typeof", "var", "void", "while", "with", "yield"]

/-- Words that are shown as themselves in messages although they may be names. -/
def contextualWords : List String :=
  ["abstract", "accessor", "any", "as", "assert", "asserts", "async", "bigint", "boolean", "declare",
   "enum", "from", "get", "global", "implements", "infer", "interface", "intrinsic", "is", "keyof",
   "meta", "namespace", "never", "number", "object", "of", "package", "private", "protected",
   "public", "readonly", "require", "satisfies", "set", "static", "string", "symbol", "target",
   "type", "undefined", "unique", "unknown", "using"]

/-- Words that no value can be named by: the keywords, and the words reserved for later ones. -/
def isReserved (w : String) : Bool :=
  keywords.contains w
    || ["enum", "implements", "interface", "package", "private", "protected", "public",
        "static"].contains w

/-- A word in a message. -/
def shownWord (w : String) : String :=
  if w = "typeof" then "typeOf"
  else if keywords.contains w || contextualWords.contains w then w
  else "ident"

/-- A token as it is named in messages. -/
def Token.shown : Token → String
  | word name => shownWord name
  | hidden _ => "#"
  | punct m => m
  | string _ => "string literal"
  | number _ => "numeric literal"
  | bigint => "bigint literal"
  | template true _ => "no substitution template literal"
  | template false _ => "template head"
  | text => "jsx text"
  | bad _ => "<lexing error>"
  | eof => "<eof>"

/-! ### Blanks and comments -/

/-- Characters that end a line. -/
def isLineEnd (c : Char) : Bool :=
  c = '\n' || c = '\r' || c.toNat = 0x2028 || c.toNat = 0x2029

/-- Blanks within a line. -/
def isBlank (c : Char) : Bool :=
  c = ' ' || c = '\t' || c.toNat = 0x0B || c.toNat = 0x0C || c.toNat = 0x85 || c.toNat = 0xA0
    || c.toNat = 0xFEFF || c.toNat = 0x1680 || (0x2000 ≤ c.toNat && c.toNat ≤ 0x200B)
    || c.toNat = 0x202F || c.toNat = 0x205F || c.toNat = 0x3000

/-- Where a reader of blanks stands: between tokens, or in a comment. -/
inductive Gap where
  | between
  | line
  | block
deriving DecidableEq

/-- Passes over blanks and comments; tells whether a line ended on the way.  The marks of a comment
in a page are comments as well, the closing one only at the start of a line. -/
def skipGap : Gap → Bool → List Char → Bool × List Char
  | _, broken, [] => (broken, [])
  | .between, broken, '/' :: '/' :: cs => skipGap .line broken cs
  | .between, broken, '/' :: '*' :: cs => skipGap .block broken cs
  | .between, broken, '<' :: '!' :: '-' :: '-' :: cs => skipGap .line broken cs
  | .between, true, '-' :: '-' :: '>' :: cs => skipGap .line true cs
  | .block, broken, '*' :: '/' :: cs => skipGap .between broken cs
  | .between, broken, c :: cs =>
    if isLineEnd c then skipGap .between true cs
    else if isBlank c then skipGap .between broken cs
    else (broken, c :: cs)
  | .line, broken, c :: cs =>
    if isLineEnd c then skipGap .between true cs else skipGap .line broken cs
  | .block, broken, c :: cs => skipGap .block (broken || isLineEnd c) cs

/-! ### Escapes and text

Escapes give code units, since a character may be written as two of them.
-/

/-- The value of a digit in bases up to sixteen. -/
def digitValue? (c : Char) : Option Nat :=
  if '0' ≤ c && c ≤ '9' then some (c.toNat - '0'.toNat)
  else if 'a' ≤ c && c ≤ 'f' then some (c.toNat - 'a'.toNat + 10)
  else if 'A' ≤ c && c ≤ 'F' then some (c.toNat - 'A'.toNat + 10)
  else none

/-- Whether a character is a digit of a base. -/
def isDigitOf (base : Nat) (c : Char) : Bool := (digitValue? c).any (· < base)

/-- The value of digits in a base. -/
def valueOf (base : Nat) (ds : List Char) : Nat :=
  ds.foldl (fun n d => base * n + (digitValue? d).getD 0) 0

/-- Whether a code unit opens a surrogate pair. -/
def isHigh (n : Nat) : Bool := 0xD800 ≤ n && n ≤ 0xDBFF

/-- Whether a code unit closes a surrogate pair. -/
def isLow (n : Nat) : Bool := 0xDC00 ≤ n && n ≤ 0xDFFF

/-- Four digits of a code, and the text after them. -/
def fourDigits (cs : List Char) : Except Cause (Nat × List Char) :=
  let ds := cs.take 4
  if ds.length = 4 && ds.all (isDigitOf 16) then .ok (valueOf 16 ds, cs.drop 4)
  else .error (.badCode "4 hex characters")

/-- The code units after `\u`: four digits, or any number of them in braces.  After the first half
of a pair the other half is read with it. -/
def codeEscape (cs : List Char) : Except Cause (List Nat × List Char) :=
  match cs with
  | '\x7b' :: rest =>
    let ds := rest.takeWhile (isDigitOf 16)
    if ds.isEmpty then .error (.badCode "1-6 hex characters")
    else if valueOf 16 ds > 0x10FFFF then
      .error (.badCode "1-6 hex characters in the range 0 to 10FFFF.")
    else match rest.dropWhile (isDigitOf 16) with
      | '\x7d' :: after => .ok ([valueOf 16 ds], after)
      | _ => .error .unclosedCode
  | _ => do
    let (n, after) ← fourDigits cs
    match isHigh n, after with
    | true, '\\' :: 'u' :: more => do
      let (m, rest) ← fourDigits more
      if isLow m then pure ([n, m], rest) else pure ([n], after)
    | _, _ => pure ([n], after)

/-- What a backslash and the text after it stand for: some code units, and the text after them.
Octal codes are refused in templates. -/
def escape (inTemplate : Bool) (cs : List Char) : Except Cause (List Nat × List Char) :=
  match cs with
  | [] => .error .loneBackslash
  | '\r' :: '\n' :: rest => .ok ([], rest)
  | 'n' :: rest => .ok ([10], rest)
  | 'r' :: rest => .ok ([13], rest)
  | 't' :: rest => .ok ([9], rest)
  | 'b' :: rest => .ok ([8], rest)
  | 'v' :: rest => .ok ([11], rest)
  | 'f' :: rest => .ok ([12], rest)
  | 'x' :: rest =>
    let ds := rest.take 2
    if ds.length = 2 && ds.all (isDigitOf 16) then .ok ([valueOf 16 ds], rest.drop 2)
    else .error (.badCode "2 hex characters")
  | 'u' :: rest => codeEscape rest
  | c :: rest =>
    if isLineEnd c then .ok ([], rest)
    else if isDigitOf 8 c then
      if c = '0' && !(rest.head?.any (isDigitOf 8)) then .ok ([0], rest)
      else if inTemplate then .error .octalEscape
      else
        let limit := if c ≤ '3' then 2 else 1
        let more := (rest.take limit).takeWhile (isDigitOf 8)
        .ok ([valueOf 8 (c :: more)], rest.drop more.length)
    else .ok ([c.toNat], rest)

/-- Code units as characters: a pair is joined, and a unit without its partner is replaced. -/
def joinUnits : List Nat → List Char
  | [] => []
  | [n] => [if isHigh n || isLow n then Char.ofNat 0xFFFD else Char.ofNat n]
  | n :: m :: rest =>
    if isHigh n && isLow m then
      Char.ofNat ((n - 0xD800) * 0x400 + (m - 0xDC00) + 0x10000) :: joinUnits rest
    else
      (if isHigh n || isLow n then Char.ofNat 0xFFFD else Char.ofNat n) :: joinUnits (m :: rest)

/-- The code units of a string up to its closing quote, last first.  A string that is not
closed ends with its line. -/
def stringUnits (quote : Char) : Nat → List Nat → List Char → Except Fault (List Nat) × List Char
  | 0, done, cs => (.ok done, cs)
  | _ + 1, done, [] => (.ok done, [])
  | fuel + 1, done, c :: cs =>
    if c = quote then (.ok done, cs)
    else if c = '\n' || c = '\r' then (.ok done, c :: cs)
    else if c = '\\' then
      match escape false cs with
      | .ok (units, rest) => stringUnits quote fuel (units.reverse ++ done) rest
      | .error cause => (.error ⟨cause, c :: cs⟩, cs)
    else stringUnits quote fuel (c.toNat :: done) cs

/-- A piece of template text: the piece, whether the template ends with it, and the text after it;
nothing if the text ends first.  Line ends are read as line feeds.  Of bad escapes the first is
kept. -/
def pieceFrom : Nat → Piece → List Char → Option (Bool × Piece × List Char)
  | 0, _, _ => none
  | _ + 1, _, [] => none
  | fuel + 1, p, c :: cs =>
    if c = Char.ofNat 96 then some (true, p, cs)
    else match c, cs with
      | '$', '\x7b' :: rest => some (false, p, rest)
      | '\\', _ =>
        match escape true cs with
        | .ok (units, rest) => pieceFrom fuel { p with units := units.reverse ++ p.units } rest
        | .error cause => pieceFrom fuel { p with fault := p.fault <|> some ⟨cause, c :: cs⟩ } (cs.drop 1)
      | '\r', '\n' :: rest => pieceFrom fuel { p with units := 10 :: p.units } rest
      | '\r', _ => pieceFrom fuel { p with units := 10 :: p.units } cs
      | _, _ => pieceFrom fuel { p with units := c.toNat :: p.units } cs

/-- The piece of template text in front of a text. -/
def piece? (cs : List Char) : Option (Bool × Piece × List Char) :=
  pieceFrom (cs.length + 1) ⟨[], none⟩ cs

/-- Code units kept last first, as text. -/
def textOf (units : List Nat) : String := String.ofList (joinUnits units.reverse)

/-! ### Words and numbers -/

/-- A name with its escapes resolved, whether it has any, and the text after it; a backslash has to
start an escape. -/
def nameFrom : Nat → List Char → Bool → List Char → Except Cause (List Char × Bool × List Char)
  | 0, done, escaped, cs => .ok (done.reverse, escaped, cs)
  | fuel + 1, done, escaped, cs =>
    match cs with
    | '\\' :: 'u' :: rest =>
      match codeEscape rest with
      | .ok (units, after) => nameFrom fuel ((joinUnits units).reverse ++ done) true after
      | .error cause => .error cause
    | '\\' :: _ => .error .unicodeEscape
    | c :: rest =>
      if isNamePart c then nameFrom fuel (c :: done) escaped rest
      else .ok (done.reverse, escaped, cs)
    | [] => .ok (done.reverse, escaped, [])

/-- The word in front of a text.  Words of the grammar are written without escapes. -/
def wordAt (cs : List Char) : Token × List Char :=
  match nameFrom (cs.length + 1) [] false cs with
  | .ok (name, escaped, after) =>
    let w := String.ofList name
    if escaped && isReserved w then (.bad ⟨.escapedWord w, cs⟩, after) else (.word w, after)
  | .error cause => (.bad ⟨cause, cs⟩, cs.drop 1)

/-- Digits of a base, in which underscores may stand, and the text after them. -/
def digitsOf (base : Nat) (cs : List Char) : List Char × List Char :=
  ((cs.takeWhile fun c => isDigitOf base c || c = '_').filter (· ≠ '_'),
    cs.dropWhile fun c => isDigitOf base c || c = '_')

/-- A number that ends here, unless a name follows it directly. -/
def endNumber (t : Token) (cs : List Char) : Token × List Char :=
  match cs with
  | c :: _ => if isNameStart c then (.bad ⟨.nameAfterNumber, cs⟩, cs) else (t, cs)
  | [] => (t, cs)

/-- A whole number in a base that is a power of two, after its mark. -/
def baseNumber (base : Nat) (cs : List Char) : Token × List Char :=
  let (ds, rest) := digitsOf base cs
  if ds.isEmpty then (.bad ⟨.digitExpected base, cs⟩, rest)
  else match rest with
    | 'n' :: after => (.bigint, after)
    | _ => endNumber (.number (Binary64.ofDigits base (ds.map fun d => (digitValue? d).getD 0))) rest

/-- The exponent that may follow a decimal number. -/
def exponentOf (cs : List Char) : Except Fault (Int × List Char) :=
  match cs with
  | c :: rest =>
    if c = 'e' || c = 'E' then
      let (negative, digits) := match rest with
        | '-' :: after => (true, after)
        | '+' :: after => (false, after)
        | _ => (false, rest)
      let (ds, after) := digitsOf 10 digits
      if rest.isEmpty then .error ⟨.exponentEnd, rest⟩
      else if ds.isEmpty then .error ⟨.digitExpected 10, digits⟩
      else .ok (if negative then -(valueOf 10 ds : Int) else valueOf 10 ds, after)
    else .ok (0, cs)
  | [] => .ok (0, [])

/-- A decimal number from its whole digits and the text after them. -/
def decimalNumber (whole : List Char) (cs : List Char) : Token × List Char :=
  let (fraction, rest) := match cs with
    | '.' :: after => digitsOf 10 after
    | _ => ([], cs)
  match exponentOf rest with
  | .error f => (.bad f, f.rest)
  | .ok (e, after) =>
    endNumber (.number (Binary64.ofDecimal false (valueOf 10 (whole ++ fraction))
      (e - fraction.length))) after

/-- A number that does not start with the mark of a base.  More than one digit after a leading zero
are octal if they can be; such a number has no fraction. -/
def plainNumber (cs : List Char) : Token × List Char :=
  let (whole, after) := digitsOf 10 cs
  let zeroFirst := cs.head? = some '0' && after.length + 1 < cs.length
  match zeroFirst, after with
  | false, 'n' :: rest => (.bigint, rest)
  | _, _ =>
    if zeroFirst && whole.all (isDigitOf 8) then
      endNumber (.number (Binary64.ofDigits 8 (whole.map fun d => (digitValue? d).getD 0))) after
    else decimalNumber whole after

/-- A number from its first character on. -/
def numberAt (cs : List Char) : Token × List Char :=
  match cs with
  | '0' :: c :: rest =>
    if c = 'x' || c = 'X' then baseNumber 16 rest
    else if c = 'o' || c = 'O' then baseNumber 8 rest
    else if c = 'b' || c = 'B' then baseNumber 2 rest
    else plainNumber cs
  | _ => plainNumber cs

/-! ### Tokens at the front of a text -/

/-- Marks and operators, longer ones first. -/
def marks : List String :=
  [">>>=", "...", "===", "!==", "**=", "<<=", ">>=", ">>>", "&&=", "||=", "??=",
   "=>", "==", "!=", "<=", ">=", "&&", "||", "??", "?.", "++", "--", "+=", "-=", "*=", "/=",
   "%=", "&=", "|=", "^=", "<<", ">>", "**",
   "\x7b", "\x7d", "(", ")", "[", "]", ";", ",", "<", ">", "+", "-", "*", "/", "%", "&", "|",
   "^", "!", "~", "?", ":", "=", ".", "@"]

/-- The text after a mark, if it stands in front. -/
def dropMark? : List Char → List Char → Option (List Char)
  | [], cs => some cs
  | _ :: _, [] => none
  | m :: ms, c :: cs => if m = c then dropMark? ms cs else none

/-- The longest mark in front of a text.  A question mark, a point and a digit are a condition. -/
def markAt? (cs : List Char) : Option (String × List Char) :=
  marks.findSome? fun m =>
    match dropMark? m.toList cs with
    | some rest => if m == "?." && rest.head?.any Char.isDigit then none else some (m, rest)
    | none => none

/-- The private name of a text that starts with a hash, given what follows the hash: the name has
to stand right after it. -/
def hiddenAt (cs rest : List Char) : Token × List Char :=
  if rest.head?.any fun c => isNameStart c || c = '\\' then
    match nameFrom (cs.length + 1) [] false rest with
    | .ok (name, _, after) => (.hidden (String.ofList name), after)
    | .error cause => (.bad ⟨cause, rest⟩, rest)
  else if (skipGap .between false rest).2.length < rest.length then
    (.bad ⟨.spaceAfterHash, cs⟩, rest)
  else (.bad ⟨.nameExpected, rest⟩, rest)

/-- The token in front of a text that starts with neither blanks nor a comment, and the text
after it. -/
def tokenAt (cs : List Char) : Token × List Char :=
  match cs with
  | [] => (.eof, [])
  | c :: rest =>
    if c = '"' || c = '\'' then
      match stringUnits c (rest.length + 1) [] rest with
      | (.ok units, after) => (.string (textOf units), after)
      | (.error f, after) => (.bad f, after)
    else if c.isDigit || (c = '.' && rest.head?.any Char.isDigit) then numberAt cs
    else if isNameStart c || c = '\\' then wordAt cs
    else if c = '#' then hiddenAt cs rest
    else if c = Char.ofNat 96 then
      match piece? rest with
      | some (closed, p, after) => (.template closed p, after)
      | none => (.bad ⟨.unterminatedTemplate, cs⟩, [])
    else match markAt? cs with
      | some (mark, after) => (.punct mark, after)
      | none => (.bad ⟨.strayCharacter c, cs⟩, rest)

/-- Whether a text starts with a line that tells versions of a text apart: seven equal marks. -/
def opensConflict (cs : List Char) : Bool :=
  cs.take 7 = List.replicate 7 '='
    || cs.take 8 = List.replicate 7 '<' ++ [' '] || cs.take 8 = List.replicate 7 '>' ++ [' ']

/-- The current token, with the text from it on and after it. -/
structure Cursor where
  token : Token
  start : List Char
  rest : List Char
  /-- Whether a line ended before the token. -/
  broken : Bool
deriving Inhabited

/-- The cursor at the first token of a text, of which it is known whether it starts a line. -/
def Cursor.ofText (lineStart : Bool) (cs : List Char) : Cursor :=
  let (broken, start) := skipGap .between lineStart cs
  if broken && opensConflict start then
    ⟨.bad ⟨.conflictMarker, start⟩, start, start.dropWhile (!isLineEnd ·), broken⟩
  else
    let (token, rest) := tokenAt start
    ⟨token, start, rest, broken⟩

/-- The cursor at the first token of a text within a line. -/
def Cursor.at (cs : List Char) : Cursor := .ofText false cs

/-- The cursor at the token after the current one. -/
def Cursor.next (c : Cursor) : Cursor := .at c.rest

/-- The text after a regular expression that starts here with a slash: its body up to the next
slash outside a class, and its flags. -/
def regexEnd? : Bool → List Char → Option (List Char)
  | _, [] => none
  | inClass, '\\' :: c :: cs => if isLineEnd c then none else regexEnd? inClass cs
  | inClass, c :: cs =>
    if isLineEnd c then none
    else if c = '/' && !inClass then some (cs.dropWhile isNamePart)
    else regexEnd? (if c = '[' then true else if c = ']' then false else inClass) cs

end PageConfig.Source
