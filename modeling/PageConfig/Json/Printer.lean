import PageConfig.Json.Value
import PageConfig.Decimal.Layout

/-!
# JSON text

Two layouts of one grammar.  The compact one has no blanks.  The pretty one
puts every item on a line of its own, indented by two spaces a level, and
leaves an empty container closed.  Only quotes, backslashes and control
characters are escaped in a string.
-/

namespace PageConfig.Json

open PageConfig.Decimal

/-- Doubles are written in full between `1e-5` and `1e16`, and always with a point or an exponent. -/
def numberStyle : Style where
  positional e := -5 ≤ e && e ≤ 15
  keepPoint := true
  infinity := "null"

/-- The text of a double. -/
def doubleText : Binary64 → String
  | .infinite _ => "null"
  | x => x.render numberStyle

/-- A lower-case hexadecimal digit. -/
def hexDigit (n : Nat) : Char := Nat.digitChar (n % 16)

/-- A character inside a string. -/
def escape (c : Char) : List Char :=
  if c = '"' then ['\\', '"']
  else if c = '\\' then ['\\', '\\']
  else if c = '\n' then ['\\', 'n']
  else if c = '\r' then ['\\', 'r']
  else if c = '\t' then ['\\', 't']
  else if c.toNat = 8 then ['\\', 'b']
  else if c.toNat = 12 then ['\\', 'f']
  else if c.toNat < 32 then ['\\', 'u', '0', '0', hexDigit (c.toNat / 16), hexDigit c.toNat]
  else [c]

/-- A string in quotes. -/
def quote (s : String) : String :=
  "\"" ++ String.ofList (s.toList.flatMap escape) ++ "\""

mutual

/-- The value on one line, without blanks. -/
def Value.compact : Value → String
  | .null => "null"
  | .bool b => if b then "true" else "false"
  | .int n => toString n
  | .double x => doubleText x
  | .string s => quote s
  | .array items => "[" ++ compactItems items ++ "]"
  | .object fields => "\x7b" ++ compactFields fields ++ "\x7d"

/-- Items separated by commas. -/
def compactItems : List Value → String
  | [] => ""
  | [v] => v.compact
  | v :: vs => v.compact ++ "," ++ compactItems vs

/-- Fields separated by commas. -/
def compactFields : List (String × Value) → String
  | [] => ""
  | [(k, v)] => quote k ++ ":" ++ v.compact
  | (k, v) :: rest => quote k ++ ":" ++ v.compact ++ "," ++ compactFields rest

end

/-- A line break and the indentation of a level. -/
def newline (level : Nat) : String := "\n" ++ String.ofList (List.replicate (2 * level) ' ')

mutual

/-- The value over several lines, at a level of indentation. -/
def Value.prettyAt (level : Nat) : Value → String
  | .null => "null"
  | .bool b => if b then "true" else "false"
  | .int n => toString n
  | .double x => doubleText x
  | .string s => quote s
  | .array [] => "[]"
  | .array (v :: vs) => "[" ++ prettyItems (level + 1) (v :: vs) ++ newline level ++ "]"
  | .object [] => "\x7b\x7d"
  | .object (f :: fs) => "\x7b" ++ prettyFields (level + 1) (f :: fs) ++ newline level ++ "\x7d"

/-- Items, each on its line. -/
def prettyItems (level : Nat) : List Value → String
  | [] => ""
  | [v] => newline level ++ v.prettyAt level
  | v :: vs => newline level ++ v.prettyAt level ++ "," ++ prettyItems level vs

/-- Fields, each on its line. -/
def prettyFields (level : Nat) : List (String × Value) → String
  | [] => ""
  | [(k, v)] => newline level ++ quote k ++ ": " ++ v.prettyAt level
  | (k, v) :: rest =>
    newline level ++ quote k ++ ": " ++ v.prettyAt level ++ "," ++ prettyFields level rest

end

/-- The value over several lines. -/
def Value.pretty (v : Value) : String := v.prettyAt 0

end PageConfig.Json
