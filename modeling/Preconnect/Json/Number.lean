import Preconnect.Decimal.Binary64
import Preconnect.Json.Fault

/-!
JSON numbers: how far one goes in a text, and what it is worth. A number without fraction and
exponent is an integer as long as 64 bits hold it; every other number is a binary one.
-/
namespace Preconnect.Json

open Decimal (Binary64)

structure NumberText where
  negative : Bool
  whole : List Char
  fraction : Option (List Char)
  /-- Whether the exponent is negative, and its digits. -/
  exponent : Option (Bool × List Char)

def digits (atEnd : Fault) (s : List Char) : Except Fault (List Char × List Char) :=
  match s with
  | [] => .error atEnd
  | c :: _ =>
    if c.isDigit then .ok (s.takeWhile Char.isDigit, s.dropWhile Char.isDigit)
    else .error .malformed

theorem digits_length {atEnd : Fault} {s ds rest : List Char}
    (h : digits atEnd s = .ok (ds, rest)) : rest.length < s.length := by
  unfold digits at h
  split at h
  · contradiction
  · rename_i c s
    split at h
    · rename_i hc
      cases h
      simp only [List.dropWhile_cons, hc, if_true, List.length_cons]
      exact Nat.lt_succ_of_le (List.dropWhile_sublist Char.isDigit).length_le
    · contradiction

def wholePart (atEnd : Fault) (s : List Char) : Except Fault (List Char × List Char) :=
  match digits atEnd s with
  | .ok ('0' :: _ :: _, _) => .error .malformed
  | result => result

def fractionPart (atEnd : Fault) : List Char → Except Fault (Option (List Char) × List Char)
  | '.' :: s => (digits atEnd s).map fun (ds, rest) => (some ds, rest)
  | s => .ok (none, s)

def exponentSign : List Char → Bool × List Char
  | '-' :: s => (true, s)
  | '+' :: s => (false, s)
  | s => (false, s)

def exponentPart (atEnd : Fault) :
    List Char → Except Fault (Option (Bool × List Char) × List Char)
  | c :: s =>
    if c = 'e' ∨ c = 'E' then
      (digits atEnd (exponentSign s).2).map fun (ds, rest) =>
        (some ((exponentSign s).1, ds), rest)
    else .ok (none, c :: s)
  | [] => .ok (none, [])

def numberSign : List Char → Bool × List Char
  | '-' :: s => (true, s)
  | s => (false, s)

def numberText (atEnd : Fault) (s : List Char) : Except Fault (NumberText × List Char) := do
  let (whole, rest) ← wholePart atEnd (numberSign s).2
  let (fraction, rest) ← fractionPart atEnd rest
  let (exponent, rest) ← exponentPart atEnd rest
  return (⟨(numberSign s).1, whole, fraction, exponent⟩, rest)

theorem fractionPart_length {atEnd : Fault} {s rest : List Char} {ds : Option (List Char)}
    (h : fractionPart atEnd s = .ok (ds, rest)) : rest.length ≤ s.length := by
  unfold fractionPart at h
  split at h
  · obtain ⟨⟨ds', r⟩, hd, he⟩ := map_eq_ok h
    cases he
    have := digits_length hd
    simp only [List.length_cons]; omega
  · cases h; exact Nat.le_refl _

theorem exponentSign_length (s : List Char) : (exponentSign s).2.length ≤ s.length := by
  unfold exponentSign
  split <;> simp

theorem exponentPart_length {atEnd : Fault} {s rest : List Char} {e : Option (Bool × List Char)}
    (h : exponentPart atEnd s = .ok (e, rest)) : rest.length ≤ s.length := by
  unfold exponentPart at h
  split at h
  · rename_i c s
    split at h
    · obtain ⟨⟨ds, r⟩, hd, he⟩ := map_eq_ok h
      cases he
      have := digits_length hd
      have := exponentSign_length s
      simp only [List.length_cons]; omega
    · cases h; exact Nat.le_refl _
  · cases h; exact Nat.le_refl _

theorem numberSign_length (s : List Char) : (numberSign s).2.length ≤ s.length := by
  unfold numberSign
  split <;> simp

theorem wholePart_length {atEnd : Fault} {s ds rest : List Char}
    (h : wholePart atEnd s = .ok (ds, rest)) : rest.length < s.length := by
  unfold wholePart at h
  split at h
  · contradiction
  · exact digits_length h

theorem numberText_length {atEnd : Fault} {s rest : List Char} {text : NumberText}
    (h : numberText atEnd s = .ok (text, rest)) : rest.length < s.length := by
  unfold numberText at h
  obtain ⟨⟨w, s₁⟩, hw, h⟩ := bind_eq_ok h
  obtain ⟨⟨f, s₂⟩, hf, h⟩ := bind_eq_ok h
  obtain ⟨⟨e, s₃⟩, he, h⟩ := bind_eq_ok h
  cases h
  have h₁ := wholePart_length hw
  have h₂ := fractionPart_length hf
  have h₃ := exponentPart_length he
  have h₄ := numberSign_length s
  omega

inductive Number
  | integer (value : Int)
  | binary (negative : Bool) (magnitude : Binary64)
  deriving DecidableEq

def digitValue (c : Char) : Nat := c.toNat - '0'.toNat

def decimalValue (ds : List Char) : Nat :=
  ds.foldl (fun n c => 10 * n + digitValue c) 0

def absorb (significand : Nat) : List Char → Nat × List Char
  | [] => (significand, [])
  | c :: ds =>
    let next := 10 * significand + digitValue c
    if next < UInt64.size then absorb next ds else (significand, c :: ds)

namespace NumberText

/-- The significand and the power of ten that the written number comes to. Digits that find no
room in the significand count as zeros before the point and are dropped behind it. -/
def scale (text : NumberText) : Nat × Int :=
  let (significand, excess) := absorb 0 text.whole
  let fraction := text.fraction.getD []
  let (significand', dropped) := absorb significand fraction
  let exponent : Int := match text.exponent with
    | none => 0
    | some (negative, ds) => if negative then -(decimalValue ds : Int) else decimalValue ds
  (significand', excess.length - (fraction.length - dropped.length : Nat) + exponent)

/-- The value of a written number, if it can be held. Negative zero is no integer. -/
def value? (text : NumberText) : Option Number :=
  let n := decimalValue text.whole
  let isInteger := text.fraction.isNone && text.exponent.isNone
  if isInteger && !text.negative && n < UInt64.size then some (.integer n)
  else if isInteger && text.negative && 0 < n && n ≤ UInt64.size / 2 then some (.integer (-n))
  else
    let (significand, exponent) := text.scale
    (Binary64.scaled? significand exponent).map (.binary text.negative)

end NumberText

def number (s : List Char) : Except Fault (Number × List Char) := do
  let (text, rest) ← numberText .truncated s
  match text.value? with
  | some value => return (value, rest)
  | none => .error .malformed

end Preconnect.Json
