/-!
# Doubles as exact numbers

A finite double is a signed multiple `m · 2 ^ q` of a power of two, with fewer
than 54 bits in `m` and `q` at least `-1074`.  Everything here is exact
arithmetic on natural numbers: a rational is rounded once, to the nearest
double, and a tie goes to the even mantissa.
-/

namespace PageConfig.Decimal

/-- A power of two. -/
def pow2 (n : Nat) : Nat := Nat.pow 2 n

/-- A power of ten. -/
def pow10 (n : Nat) : Nat := Nat.pow 10 n

/-- A double that is a number or an infinity. -/
inductive Binary64 where
  /-- The value `± mantissa · 2 ^ exponent`. -/
  | finite (negative : Bool) (mantissa : Nat) (exponent : Int)
  | infinite (negative : Bool)
deriving DecidableEq, Inhabited

namespace Binary64

/-- The least exponent, that of the subnormal doubles. -/
def minExponent : Int := -1074

/-- The greatest exponent of a finite double. -/
def maxExponent : Int := 971

/-- Bits in a mantissa. -/
def precision : Nat := 53

/-- The quotient rounded to the nearest natural number, a tie to the even one. -/
def divNearest (num den : Nat) : Nat :=
  let q := num / den
  let r := num % den
  if 2 * r < den then q
  else if 2 * r > den then q + 1
  else if q % 2 = 0 then q else q + 1

/-- The quotient `num / den / 2 ^ q`, rounded. -/
def scaled (num den : Nat) (q : Int) : Nat :=
  if q < 0 then divNearest (num * pow2 (-q).toNat) den
  else divNearest num (den * pow2 q.toNat)

/-- The exponent at which a quotient has a full mantissa: `2 ^ 52 ≤ num / den / 2 ^ q < 2 ^ 53`,
or the least exponent. -/
def exponentFor (num den : Nat) : Int :=
  let guess : Int := (num.log2 : Int) - den.log2 - (precision - 1 : Nat)
  let fits := if guess < 0 then den * pow2 (precision - 1) ≤ num * pow2 (-guess).toNat
    else den * pow2 (precision - 1) * pow2 guess.toNat ≤ num
  max minExponent (if fits then guess else guess - 1)

/-- A mantissa and an exponent, with a carry out of the mantissa moved into the exponent. -/
def pack (negative : Bool) (m : Nat) (q : Int) : Binary64 :=
  if m = 0 then finite negative 0 minExponent
  else
    let (m, q) := if m = pow2 precision then (pow2 (precision - 1), q + 1) else (m, q)
    if q > maxExponent then infinite negative else finite negative m q

/-- The double nearest to `± num / den`. -/
def ofRatio (negative : Bool) (num den : Nat) : Binary64 :=
  if num = 0 then finite negative 0 minExponent
  else
    let q := exponentFor num den
    pack negative (scaled num den q) q

/-- The double nearest to `± digits · 10 ^ exponent`. -/
def ofDecimal (negative : Bool) (digits : Nat) (exponent : Int) : Binary64 :=
  if digits = 0 then finite negative 0 minExponent
  else if exponent > 400 then infinite negative
  else if exponent < -(400 + (Nat.log2 digits : Int)) then finite negative 0 minExponent
  else if exponent < 0 then ofRatio negative digits (pow10 (-exponent).toNat)
  else ofRatio negative (digits * pow10 exponent.toNat) 1

/-- The nearest natural number with at most 53 significant bits. -/
def roundNat (n : Nat) : Nat :=
  let extra := n.log2 + 1 - precision
  divNearest n (pow2 extra) * pow2 extra

/-- The double read from digits in a base that is a power of two, rounding at every digit. -/
def ofDigits (base : Nat) (digits : List Nat) : Binary64 :=
  ofRatio false (digits.foldl (fun n d => roundNat (n * base + d)) 0) 1

/-- The double with the opposite sign. -/
def neg : Binary64 → Binary64
  | finite s m q => finite (!s) m q
  | infinite s => infinite (!s)

/-- Whether the sign is a minus. -/
def isNegative : Binary64 → Bool
  | finite s _ _ => s
  | infinite s => s

/-- A finite magnitude as a quotient. -/
def ratio (m : Nat) (q : Int) : Nat × Nat :=
  if q < 0 then (m, pow2 (-q).toNat) else (m * pow2 q.toNat, 1)

/-- The product, rounded. -/
def mul : Binary64 → Binary64 → Binary64
  | finite s m p, finite t n q =>
    let (a, b) := ratio m p
    let (c, d) := ratio n q
    ofRatio (s != t) (a * c) (b * d)
  | x, y => infinite (x.isNegative != y.isNegative)

/-- The quotient by a double that is not zero, rounded. -/
def div : Binary64 → Binary64 → Binary64
  | finite s m p, finite t n q =>
    let (a, b) := ratio m p
    let (c, d) := ratio n q
    ofRatio (s != t) (a * d) (b * c)
  | finite s _ _, infinite t => finite (s != t) 0 minExponent
  | infinite s, y => infinite (s != y.isNegative)

/-- The value as an integer, if it is one. -/
def toInt? : Binary64 → Option Int
  | infinite _ => none
  | finite s m q =>
    let (num, den) := ratio m q
    if num % den = 0 then
      let n : Int := (num / den : Nat)
      some (if s then -n else n)
    else none

/-- The bound below which every integer is a double of its own. -/
def exactBound : Int := 9007199254740992

/-- The value as an integer of magnitude below `2 ^ 53`. -/
def toSafeInt? (x : Binary64) : Option Int :=
  x.toInt?.filter fun n => n.natAbs < exactBound.natAbs

end Binary64

end PageConfig.Decimal
