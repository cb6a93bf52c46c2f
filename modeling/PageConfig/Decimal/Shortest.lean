import PageConfig.Decimal.Binary64

/-!
# Shortest decimals

The reals that round to a given double form an interval around it, whose ends
belong to it exactly when the mantissa is even.  On the grid of decimals with
one digit, then with two, and so on, the two neighbours of the double are
tested against the interval; the first grid with a hit gives the shortest
decimal that reads back, and of two hits the nearer is taken.
-/

namespace PageConfig.Decimal

/-- The decimal `d₁.d₂d₃… · 10 ^ exponent`, its first digit not zero unless it is alone. -/
structure Digits where
  digits : List Nat
  exponent : Int
deriving DecidableEq, Inhabited

namespace Shortest

/-- An interval of reals over one denominator: the value, its lower and its upper end. -/
structure Interval where
  value : Nat
  low : Nat
  high : Nat
  den : Nat
  closed : Bool

/-- The reals that round to `m · 2 ^ q`.  Below a power of two the doubles stand twice as close. -/
def interval (m : Nat) (q : Int) : Interval :=
  let tight := m = pow2 (Binary64.precision - 1) && q > Binary64.minExponent
  let (num, den) := Binary64.ratio 1 q
  { value := 4 * m * num
    low := (if tight then 4 * m - 1 else 4 * m - 2) * num
    high := (4 * m + 2) * num
    den := 4 * den
    closed := m % 2 = 0 }

/-- Whether `k · 10 ^ g` lies in the interval. -/
def Interval.contains (i : Interval) (k : Nat) (g : Int) : Bool :=
  let (point, scale) := if g < 0 then (k * i.den, pow10 (-g).toNat) else (k * pow10 g.toNat * i.den, 1)
  if i.closed then i.low * scale ≤ point && point ≤ i.high * scale
  else i.low * scale < point && point < i.high * scale

/-- The greatest `k` with `k · 10 ^ g` at most the value, and whether the next is no farther. -/
def Interval.floor (i : Interval) (g : Int) : Nat × Ordering :=
  let (num, den) := if g < 0 then (i.value * pow10 (-g).toNat, i.den) else (i.value, i.den * pow10 g.toNat)
  (num / den, compare (2 * (num % den)) den)

/-- The point of the grid `10 ^ g` that reads back, if there is one. -/
def Interval.onGrid? (i : Interval) (g : Int) : Option Nat :=
  let (k, side) := i.floor g
  match i.contains k g && k > 0, i.contains (k + 1) g with
  | true, true =>
    match side with
    | .lt => some k
    | .gt => some (k + 1)
    | .eq => some (if k % 2 = 0 then k else k + 1)
  | true, false => some k
  | false, true => some (k + 1)
  | false, false => none

/-- The greatest `e` with `10 ^ e` at most the value, found from a guess. -/
def Interval.magnitude (i : Interval) : Nat → Int → Int
  | 0, e => e
  | fuel + 1, e =>
    let (num, den) := if e < 0 then (i.value * pow10 (-e).toNat, i.den) else (i.value, i.den * pow10 e.toNat)
    if num < den then i.magnitude fuel (e - 1)
    else if 10 * den ≤ num then i.magnitude fuel (e + 1)
    else e

/-- The first grid with a hit, from `count` digits on. -/
def Interval.search (i : Interval) (e : Int) : Nat → Nat → Nat × Int
  | 0, _ => (0, 0)
  | fuel + 1, count =>
    let g := e - (count - 1 : Nat)
    match i.onGrid? g with
    | some k => (k, g)
    | none => i.search e fuel (count + 1)

/-- The decimal digits of a number, first digit first. -/
def digitsOf (n : Nat) : List Nat := (Nat.toDigits 10 n).map fun c => c.toNat - '0'.toNat

/-- Digits without the zeros at the end, which say nothing after a point. -/
def trimZeros (ds : List Nat) : List Nat := (ds.reverse.dropWhile (· = 0)).reverse

end Shortest

open Shortest in
/-- The fewest digits that read back as `m · 2 ^ q`, and of those the nearest. -/
def shortest (m : Nat) (q : Int) : Digits :=
  if m = 0 then ⟨[0], 0⟩
  else
    let i := interval m q
    let guess : Int := ((m.log2 : Int) + q) * 30103 / 100000
    let e := i.magnitude 8 guess
    let (k, g) := i.search e 20 1
    let ds := digitsOf k
    ⟨trimZeros ds, g + (ds.length - 1 : Nat)⟩

end PageConfig.Decimal
