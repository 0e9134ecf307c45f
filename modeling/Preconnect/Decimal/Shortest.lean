import Preconnect.Decimal.Binary64

/-!
The fewest decimal digits that still name a given binary number. All decimals that round to the
number form an interval; the coarsest decimal grid with a point in it is taken, and of two points
the nearer.
-/
namespace Preconnect.Decimal

structure Numeral where
  digits : Nat
  exponent : Int
  deriving DecidableEq, Inhabited

namespace Binary64

def quarters (x : Binary64) : Nat := 4 * x.significand

/-- How far below the number, in quarters, decimals still round to it: half a place, or a quarter
where the places below are half as wide. -/
def reachBelow (x : Binary64) : Nat :=
  if x.significand = Nat.pow 2 52 && minExponent < x.exponent then 1 else 2

def onScale (x : Binary64) (d : Numeral) (quarters : Nat) : Nat × Nat :=
  let e := x.exponent - 2
  (d.digits * Nat.pow 10 d.exponent.toNat * Nat.pow 2 (-e).toNat,
    quarters * Nat.pow 2 e.toNat * Nat.pow 10 (-d.exponent).toNat)

/-- Whether the decimal rounds to the number. The ends of the interval belong to it exactly if the
significand is even, as ties go to the even neighbour. -/
def holds (x : Binary64) (d : Numeral) : Bool :=
  let low := x.onScale d (x.quarters - x.reachBelow)
  let high := x.onScale d (x.quarters + 2)
  if x.significand % 2 = 0 then low.2 ≤ low.1 && high.1 ≤ high.2
  else low.2 < low.1 && high.1 < high.2

def below (x : Binary64) (exponent : Int) : Numeral :=
  let (unit, value) := x.onScale ⟨1, exponent⟩ x.quarters
  ⟨value / unit, exponent⟩

/-- The point of a decimal grid to write the number by, if one of its two neighbours on the grid
rounds to it; of two the nearer, and of two equally near the even one. -/
def onGrid? (x : Binary64) (exponent : Int) : Option Numeral :=
  let lower := x.below exponent
  let upper : Numeral := ⟨lower.digits + 1, exponent⟩
  match x.holds lower, x.holds upper with
  | false, false => none
  | true, false => some lower
  | false, true => some upper
  | true, true =>
    let (unit, value) := x.onScale ⟨1, exponent⟩ x.quarters
    some ⟨nearest value unit, exponent⟩

def firstGrid (x : Binary64) (exponent : Int) : Nat → Numeral
  | 0 => x.below exponent
  | tries + 1 => (x.onGrid? exponent).getD (firstGrid x (exponent - 1) tries)

def ceilLog10 (x : Binary64) : Int :=
  (x.significand.log2 + x.exponent + 1) * 30103 / 100000 + 1

end Binary64

namespace Numeral

def trim (d : Numeral) : Numeral :=
  if h : d.digits ≠ 0 ∧ d.digits % 10 = 0 then trim ⟨d.digits / 10, d.exponent + 1⟩ else d
termination_by d.digits
decreasing_by omega

end Numeral

def shortest (x : Binary64) : Numeral :=
  if x.isZero then ⟨0, 0⟩ else (x.firstGrid x.ceilLog10 20).trim

end Preconnect.Decimal
