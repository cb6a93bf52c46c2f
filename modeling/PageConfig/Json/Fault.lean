import PageConfig.Json.Printer
import PageConfig.Text.Listing

/-!
# What can be wrong with JSON text

A fault names its cause and the place where it was noticed.  The place is kept
as the text that was still to be read; line and column are worked out from it
only when the message is written.  Columns count the bytes read on the line.
-/

namespace PageConfig.Json

/-- What was found where another type was wanted. -/
inductive Found where
  | null
  | bool (b : Bool)
  | int (n : Int)
  | double (x : Decimal.Binary64)
  | string (s : String)
  | sequence
  | map
deriving Inhabited

/-- What was found, in words. -/
def Found.words : Found → String
  | null => "null"
  | bool b => "boolean `" ++ (if b then "true" else "false") ++ "`"
  | int n => "integer `" ++ toString n ++ "`"
  | double x => "floating point `" ++ doubleText x ++ "`"
  | string s => "string " ++ Text.listing s
  | sequence => "sequence"
  | map => "map"

/-- Why JSON text was refused. -/
inductive Cause where
  | endInValue
  | endInObject
  | endInList
  | endInString
  | expectedValue
  | expectedWord
  | expectedColon
  | expectedListEnd
  | expectedObjectEnd
  | keyNotString
  | trailingComma
  | trailingText
  | badNumber
  | numberOutOfRange
  | badEscape
  | cutEscape
  | loneSurrogate
  | controlCharacter
  | tooDeep
  | duplicateField (name : String)
  | wrongType (found : Found) (wanted : String)
deriving Inhabited

/-- Text that ends too early, text against the grammar, and text against the wanted shape. -/
inductive Family where
  | eof
  | grammar
  | data
deriving DecidableEq

namespace Cause

/-- The cause in words. -/
def words : Cause → String
  | endInValue => "EOF while parsing a value"
  | endInObject => "EOF while parsing an object"
  | endInList => "EOF while parsing a list"
  | endInString => "EOF while parsing a string"
  | expectedValue => "expected value"
  | expectedWord => "expected ident"
  | expectedColon => "expected `:`"
  | expectedListEnd => "expected `,` or `]`"
  | expectedObjectEnd => "expected `,` or `\x7d`"
  | keyNotString => "key must be a string"
  | trailingComma => "trailing comma"
  | trailingText => "trailing characters"
  | badNumber => "invalid number"
  | numberOutOfRange => "number out of range"
  | badEscape => "invalid escape"
  | cutEscape => "unexpected end of hex escape"
  | loneSurrogate => "lone leading surrogate in hex escape"
  | controlCharacter => "control character (\\u0000-\\u001F) found while parsing a string"
  | tooDeep => "recursion limit exceeded"
  | duplicateField name => "duplicate field `" ++ name ++ "`"
  | wrongType found wanted => "invalid type: " ++ found.words ++ ", expected " ++ wanted

/-- The family of a cause. -/
def family : Cause → Family
  | endInValue | endInObject | endInList | endInString => .eof
  | duplicateField _ | wrongType _ _ => .data
  | _ => .grammar

end Cause

/-- A cause, and where it was noticed. -/
structure Fault where
  cause : Cause
  /-- The text still to be read. -/
  rest : List Char
  /-- How many bytes of the rest have been looked at. -/
  past : Nat
deriving Inhabited

/-- The line and the byte column after so many bytes of a text, from a line and column before. -/
def placeAfter (line column : Nat) : Nat → List Char → Nat × Nat
  | _, [] => (line, column)
  | 0, _ :: _ => (line, column)
  | bytes + 1, c :: cs =>
    if c = '\n' then placeAfter (line + 1) 0 bytes cs
    else if bytes + 1 < c.utf8Size then (line, column + bytes + 1)
    else placeAfter line (column + c.utf8Size) (bytes + 1 - c.utf8Size) cs

/-- The line and the byte column reached after some text. -/
def place (text : List Char) : Nat × Nat :=
  text.foldl (fun (line, column) c =>
    if c = '\n' then (line + 1, 0) else (line, column + c.utf8Size)) (1, 0)

/-- The line and column of a fault in a text. -/
def Fault.position (text : String) (f : Fault) : Nat × Nat :=
  let chars := text.toList
  let (line, column) := place (chars.take (chars.length - f.rest.length))
  placeAfter line column f.past f.rest

/-- The fault in words. -/
def Fault.message (text : String) (f : Fault) : String :=
  let (line, column) := f.position text
  f.cause.words ++ " at line " ++ toString line ++ " column " ++ toString column

end PageConfig.Json
