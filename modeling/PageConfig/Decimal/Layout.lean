import PageConfig.Decimal.Shortest

/-!
# Decimal notation

Where the point goes, when an exponent is written, and what is said of values
that have no digits.  The choices are fields of a `Style`, so that each
printer states its own in one place.
-/

namespace PageConfig.Decimal

/-- How a double is written. -/
structure Style where
  /-- Exponents of the first digit that are written with a point and no exponent. -/
  positional : Int → Bool
  /-- Whether a whole number is written with a zero after the point. -/
  keepPoint : Bool
  /-- The text of an infinity. -/
  infinity : String

/-- Digits as text. -/
def digitText (ds : List Nat) : String := String.ofList (ds.map Nat.digitChar)

/-- A decimal with its point in place and no exponent. -/
def plain (style : Style) (d : Digits) : String :=
  if d.exponent < 0 then
    "0." ++ digitText (List.replicate (-d.exponent - 1).toNat 0 ++ d.digits)
  else
    let whole := d.exponent.toNat + 1
    let padded := d.digits ++ List.replicate (whole - d.digits.length) 0
    let fraction := padded.drop whole
    let tail := if fraction.isEmpty then (if style.keepPoint then ".0" else "")
      else "." ++ digitText fraction
    digitText (padded.take whole) ++ tail

/-- A decimal with one digit before the point and a signed exponent. -/
def scientific (d : Digits) : String :=
  let mantissa := match d.digits with
    | [] => "0"
    | [x] => digitText [x]
    | x :: xs => digitText [x] ++ "." ++ digitText xs
  let sign := if d.exponent < 0 then "-" else "+"
  mantissa ++ "e" ++ sign ++ toString d.exponent.natAbs

/-- A double as text. -/
def Binary64.render (style : Style) : Binary64 → String
  | .infinite s => (if s then "-" else "") ++ style.infinity
  | .finite s m q =>
    let d := shortest m q
    (if s then "-" else "") ++ (if style.positional d.exponent then plain style d else scientific d)

end PageConfig.Decimal
