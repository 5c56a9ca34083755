import Catalogue.Text.Numeral

/-!
# The shortest decimal that reads back

A binary64 value `m · 2 ^ q` is the nearest such value to every real of an interval around it. Of
the decimals in that interval the shortest is written, and of several shortest ones the nearest.

* `Binary64.ofBits` -- sign, significand and exponent of a finite value;
* `Binary64.interval` -- the two ends, in quarters of the last place, and whether they belong;
* `Binary64.shortest` -- the digits and the power of ten of the decimal that is written.

The grids of 1, 2, … 17 digits are tried in turn. If a point of a grid lies in the interval then
so does one of the value's two neighbours on that grid, so only these are tested.
-/

namespace Catalogue

/-- A finite binary64 value: `(-1) ^ negative · significand · 2 ^ exponent`. -/
structure Binary64 where
  negative : Bool
  significand : Nat
  exponent : Int
  /-- The lower neighbour is half as far away as the upper one. -/
  closeBelow : Bool
  deriving DecidableEq, Repr

namespace Binary64

/-- The parts of a finite value's bit pattern. -/
def ofBits (bits : UInt64) : Binary64 :=
  let n := bits.toNat
  let field : Nat := n / 4503599627370496 % 2048
  let fraction : Nat := n % 4503599627370496
  let negative := n / 9223372036854775808 == 1
  if field = 0 then ⟨negative, fraction, -1074, false⟩
  else ⟨negative, 4503599627370496 + fraction, Int.ofNat field - 1075, fraction == 0 && field != 1⟩

/-- `w` quarters of the last place, as a multiple of a common unit with `c · 10 ^ p`. -/
def scaledQuarters (x : Binary64) (p : Int) (w : Nat) : Nat :=
  w * Nat.pow 2 (x.exponent - 2).toNat * Nat.pow 10 (-p).toNat

/-- `c · 10 ^ p` as a multiple of the same unit. -/
def scaledDecimal (x : Binary64) (p : Int) (c : Nat) : Nat :=
  c * Nat.pow 10 p.toNat * Nat.pow 2 (2 - x.exponent).toNat

/-- The ends of the interval that reads back as the value, in quarters of the last place. -/
def interval (x : Binary64) : Nat × Nat :=
  let v := 4 * x.significand
  (if x.closeBelow then v - 1 else v - 2, v + 2)

/-- Whether `c · 10 ^ p` reads back as the value; the ends do for an even significand. -/
def readsBack (x : Binary64) (p : Int) (c : Nat) : Bool :=
  let (lo, hi) := x.interval
  let d := x.scaledDecimal p c
  if x.significand % 2 = 0 then x.scaledQuarters p lo ≤ d && d ≤ x.scaledQuarters p hi
  else x.scaledQuarters p lo < d && d < x.scaledQuarters p hi

/-- The power of ten of the value's leading digit. -/
def leadingPower (x : Binary64) : Int :=
  let a := x.significand * Nat.pow 2 x.exponent.toNat
  let b := Nat.pow 2 (-x.exponent).toNat
  let e : Int := (decimalDigits a).length - (decimalDigits b).length
  if b * Nat.pow 10 e.toNat ≤ a * Nat.pow 10 (-e).toNat then e else e - 1

/-- The neighbour of the value on the grid of multiples of `10 ^ p` that reads back, the nearer
    one if both do. -/
def onGrid (x : Binary64) (p : Int) : Option Nat :=
  let v := x.scaledQuarters p (4 * x.significand)
  let c := v / x.scaledDecimal p 1
  match x.readsBack p c, x.readsBack p (c + 1) with
  | true, false => some c
  | false, true => some (c + 1)
  | false, false => none
  | true, true =>
    let below := v - x.scaledDecimal p c
    let above := x.scaledDecimal p (c + 1) - v
    if below < above then some c
    else if above < below then some (c + 1)
    else if c % 2 = 0 then some c else some (c + 1)

/-- Tries grids with more and more digits, `left` of them. -/
def searchGrids (x : Binary64) : (left : Nat) → (p : Int) → Nat × Int
  | 0, p => (x.scaledQuarters p (4 * x.significand) / x.scaledDecimal p 1, p)
  | left + 1, p =>
    match x.onGrid p with
    | some c => (c, p)
    | none => searchGrids x left (p - 1)

/-- Moves trailing zeros of `c` into the power of ten. -/
def withoutZeros : (fuel : Nat) → Nat × Int → Nat × Int
  | 0, r => r
  | fuel + 1, (c, p) => if c % 10 = 0 ∧ c ≠ 0 then withoutZeros fuel (c / 10, p + 1) else (c, p)

/-- The shortest decimal `c · 10 ^ p` that reads back as a positive value. -/
def shortest (x : Binary64) : Nat × Int :=
  withoutZeros 20 (x.searchGrids 17 x.leadingPower)

end Binary64

end Catalogue
