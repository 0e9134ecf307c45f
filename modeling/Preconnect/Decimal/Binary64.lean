/-!
Nonnegative numbers with a significand of 53 bits, by exact arithmetic on natural numbers. Every
operation rounds to the nearest representable number, a tie to the even significand.
-/
namespace Preconnect.Decimal

/-- The number `significand * 2 ^ exponent`. Rounding yields significands below `2 ^ 53` and
exponents from -1074, the least one whenever the significand has fewer than 53 bits. -/
structure Binary64 where
  significand : Nat
  exponent : Int
  deriving DecidableEq, Inhabited

/-- The nearest whole number to a quotient; a tie goes to the even one. -/
def nearest (num den : Nat) : Nat :=
  let floor := num / den
  let twice := 2 * (num % den)
  if twice < den || (twice == den && floor % 2 == 0) then floor else floor + 1

namespace Binary64

def minExponent : Int := -1074

def maxExponent : Int := 971

def zero : Binary64 := ⟨0, minExponent⟩

def isZero (x : Binary64) : Bool := x.significand == 0

def isInfinite (x : Binary64) : Bool := maxExponent < x.exponent

def num (x : Binary64) : Nat := x.significand * Nat.pow 2 x.exponent.toNat

def den (x : Binary64) : Nat := Nat.pow 2 (-x.exponent).toNat

def floorLog2 (num den : Nat) : Int :=
  let k : Int := (num.log2 : Int) - den.log2
  if den * Nat.pow 2 k.toNat ≤ num * Nat.pow 2 (-k).toNat then k else k - 1

/-- The representable number nearest to a fraction, without an upper limit. -/
def ofFraction (num den : Nat) : Binary64 :=
  if num = 0 then zero
  else
    let exponent := max (floorLog2 num den - 52) minExponent
    let significand :=
      nearest (num * Nat.pow 2 (-exponent).toNat) (den * Nat.pow 2 exponent.toNat)
    if significand = Nat.pow 2 53 then ⟨Nat.pow 2 52, exponent + 1⟩ else ⟨significand, exponent⟩

def ofNat (n : Nat) : Binary64 := ofFraction n 1

def mul (x y : Binary64) : Binary64 := ofFraction (x.num * y.num) (x.den * y.den)

def div (x y : Binary64) : Binary64 := ofFraction (x.num * y.den) (x.den * y.num)

def powerOfTen (k : Nat) : Binary64 := ofNat (Nat.pow 10 k)

def shrink (x : Binary64) (k : Nat) : Binary64 :=
  if k ≤ 308 then x.div (powerOfTen k)
  else if x.isZero then x
  else (x.div (powerOfTen 308)).shrink (k - 308)
termination_by k

/-- A whole number scaled by a power of ten, rounded at each operation; nothing if it is too large
to be held. -/
def scaled? (n : Nat) (exponent : Int) : Option Binary64 :=
  match exponent with
  | .ofNat k =>
    if n = 0 then some zero
    else if 308 < k then none
    else
      let x := (ofNat n).mul (powerOfTen k)
      if x.isInfinite then none else some x
  | .negSucc k => some ((ofNat n).shrink (k + 1))

end Binary64

end Preconnect.Decimal
