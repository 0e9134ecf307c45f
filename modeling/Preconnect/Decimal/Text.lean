import Preconnect.Decimal.Shortest

/-!
The written form of a number: positional from `1e-5` up to below `1e16` and always with a point,
in powers of ten outside of that range.
-/
namespace Preconnect.Decimal

def digitsOf (n : Nat) : List Char := Nat.toDigits 10 n

def exponentText (e : Int) : List Char :=
  (if e < 0 then '-' else '+') :: digitsOf e.natAbs

/-- Positional notation: `digits` with the point after the first `whole` of them. -/
def positional (digits : List Char) (whole : Int) : List Char :=
  let zeros (n : Int) := List.replicate n.toNat '0'
  if whole ≤ 0 then '0' :: '.' :: zeros (-whole) ++ digits
  else
    let length : Int := digits.length
    if length ≤ whole then digits ++ zeros (whole - length) ++ ['.', '0']
    else digits.take whole.toNat ++ '.' :: digits.drop whole.toNat

def scientific (digits : List Char) (whole : Int) : List Char :=
  let fraction := digits.drop 1
  digits.take 1 ++ (if fraction.isEmpty then [] else '.' :: fraction) ++ 'e' ::
    exponentText (whole - 1)

def Numeral.text (d : Numeral) : List Char :=
  if d.digits = 0 then ['0', '.', '0']
  else
    let digits := digitsOf d.digits
    let whole : Int := digits.length + d.exponent
    if -4 ≤ whole ∧ whole ≤ 16 then positional digits whole else scientific digits whole

def signedText (negative : Bool) (x : Binary64) : String :=
  String.ofList ((if negative then ['-'] else []) ++ (shortest x).text)

end Preconnect.Decimal
