import Mathlib.Data.List.DropRight
import Preconnect.Proofs.Grammar

/-!
Reading what the grammar derives: white space, strings in each of their spellings, and numbers are
read to their ends, whatever stands behind them.
-/
namespace Preconnect

theorem ok_bind {ε α β : Type} (a : α) (next : α → Except ε β) :
    (Except.ok a >>= next) = next a := rfl

namespace Json

variable {gap rest : List Char}

theorem skipSpace_gap (gaps : Gap gap) (s : List Char) : skipSpace (gap ++ s) = skipSpace s := by
  apply List.dropWhile_append_of_pos
  intro c member
  have space := gaps c member
  simp only [List.mem_cons, List.not_mem_nil, or_false] at space
  rcases space with rfl | rfl | rfl | rfl <;> rfl

theorem skipSpace_of_token {c : Char} (token : isSpace c = false) (s : List Char) :
    skipSpace (c :: s) = c :: s :=
  List.dropWhile_cons_of_neg (by simp [token])

theorem skipSpace_skipSpace (s : List Char) : skipSpace (skipSpace s) = skipSpace s :=
  List.dropWhile_idempotent isSpace s

/-! ### Strings -/

theorem hexDigit?_of_mem {digit : Char × Nat} (member : digit ∈ hexDigits) :
    hexDigit? digit.1 = some digit.2 := by
  have all : ∀ digit ∈ hexDigits, hexDigit? digit.1 = some digit.2 := by decide
  exact all digit member

theorem Quad.read {unit : Nat} {text : List Char} (quad : Quad unit text) (rest : List Char) :
    hexQuad (text ++ rest) = .ok (unit, rest) := by
  obtain ⟨first, second, third, fourth⟩ := quad
  simp [hexQuad, hexQuad?, hexDigit?_of_mem first, hexDigit?_of_mem second,
    hexDigit?_of_mem third, hexDigit?_of_mem fourth]

theorem not_surrogate (c : Char) :
    isHighSurrogate c.toNat = false ∧ isLowSurrogate c.toNat = false := by
  have valid : c.toNat < 0xD800 ∨ 0xDFFF < c.toNat ∧ c.toNat < 0x110000 := c.valid
  simp only [isHighSurrogate, isLowSurrogate, Bool.and_eq_false_iff, decide_eq_false_iff_not]
  omega

theorem lt_of_char (c : Char) : c.toNat < 0x110000 := by
  have valid : c.toNat < 0xD800 ∨ 0xDFFF < c.toNat ∧ c.toNat < 0x110000 := c.valid
  omega

theorem pairChar_of_wide {c : Char} (wide : 0x10000 ≤ c.toNat) :
    pairChar (0xD800 + (c.toNat - 0x10000) / 0x400) (0xDC00 + (c.toNat - 0x10000) % 0x400) = c := by
  have whole : 0x10000 + (0xD800 + (c.toNat - 0x10000) / 0x400 - 0xD800) * 0x400 +
      (0xDC00 + (c.toNat - 0x10000) % 0x400 - 0xDC00) = c.toNat := by
    omega
  rw [pairChar, whole, Char.ofNat_toNat]

theorem lowSurrogate_of_quad {high low : Nat} {text : List Char} (quad : Quad low text)
    (surrogate : isLowSurrogate low = true) (rest : List Char) :
    lowSurrogate high ('\\' :: 'u' :: (text ++ rest)) = .ok (pairChar high low, rest) := by
  simp [lowSurrogate, quad.read rest, surrogate]

theorem unitEscape_of_quad {c : Char} {text : List Char} (quad : Quad c.toNat text)
    (rest : List Char) : unitEscape .read (text ++ rest) = .ok (c, rest) := by
  obtain ⟨high, low⟩ := not_surrogate c
  simp [unitEscape, quad.read rest, high, low, Char.ofNat_toNat]

theorem unitEscape_of_pair {c : Char} {high low : List Char} (wide : 0x10000 ≤ c.toNat)
    (first : Quad (0xD800 + (c.toNat - 0x10000) / 0x400) high)
    (second : Quad (0xDC00 + (c.toNat - 0x10000) % 0x400) low) (rest : List Char) :
    unitEscape .read (high ++ '\\' :: 'u' :: (low ++ rest)) = .ok (c, rest) := by
  have narrow := lt_of_char c
  have isHigh : isHighSurrogate (0xD800 + (c.toNat - 0x10000) / 0x400) = true := by
    simp only [isHighSurrogate, Bool.and_eq_true, decide_eq_true_eq]
    omega
  have isLow : isLowSurrogate (0xDC00 + (c.toNat - 0x10000) % 0x400) = true := by
    simp only [isLowSurrogate, Bool.and_eq_true, decide_eq_true_eq]
    omega
  simp only [unitEscape, first.read, isHigh, if_true]
  rw [lowSurrogate_of_quad second isLow, pairChar_of_wide wide]

theorem anyEscape_of_short {letter c : Char} (escape : (letter, c) ∈ shortEscapes) (care : Care)
    (rest : List Char) : anyEscape care (letter :: rest) = .ok (c, rest) := by
  have all : ∀ pair ∈ shortEscapes, pair.1 ≠ 'u' ∧ shortEscape? pair.1 = some pair.2 := by decide
  obtain ⟨other, found⟩ := all _ escape
  unfold anyEscape
  split
  · contradiction
  · simp_all
  · simp_all

theorem piece_escape (care : Care) (s : List Char) :
    piece care ('\\' :: s) = (anyEscape care s).map fun (c, rest) => (some c, rest) := rfl

theorem piece_unit (care : Care) (s : List Char) :
    piece care ('\\' :: 'u' :: s) =
      (unitEscape care s).map fun (c, rest) => (some c, rest) := rfl

theorem Piece.read {care : Care} {c : Char} {text : List Char} (piece : Piece care c text)
    (rest : List Char) : Json.piece care (text ++ rest) = .ok (some c, rest) := by
  cases piece with
  | plain visible unquoted unescaped =>
    have seen : ¬c.toNat < 0x20 := Nat.not_lt.2 visible
    simp [Json.piece, seen]
  | short escape =>
    rw [List.cons_append, List.singleton_append, piece_escape, anyEscape_of_short escape]
    rfl
  | unit quad =>
    rw [List.cons_append, List.cons_append, piece_unit, unitEscape_of_quad quad]
    rfl
  | pair wide first second =>
    rw [List.append_assoc, List.cons_append, List.cons_append, piece_unit]
    exact congrArg (Except.map _) (unitEscape_of_pair wide first second rest)
  | loose quad =>
    rw [List.cons_append, List.cons_append, piece_unit]
    simp only [unitEscape, quad.read]
    rfl

/-- A string is read up to its closing quote, whatever comes then. -/
theorem Spells.read {care : Care} {cs text : List Char} (spells : Spells care cs text)
    (rest : List Char) : textBody care (text ++ '"' :: rest) = .ok (cs, rest) := by
  induction spells with
  | nil =>
    rw [textBody]
    rfl
  | cons first others ih =>
    rw [textBody, List.append_assoc, first.read]
    simp only [ih]
    rfl

theorem Spells.skip {cs text : List Char} (spells : Spells .skip cs text) (rest : List Char) :
    skipText (text ++ '"' :: rest) = .ok rest := by
  rw [skipText, spells.read]
  rfl

/-! ### Numbers -/

def Undigited (s : List Char) : Prop := ∀ c ∈ s.head?, c.isDigit = false

def Stops (s : List Char) : Prop :=
  ∀ c ∈ s.head?, c.isDigit = false ∧ c ≠ '.' ∧ c ≠ 'e' ∧ c ≠ 'E'

theorem Stops.undigited (stops : Stops rest) : Undigited rest := fun c head => (stops c head).1

theorem stops_cons {c : Char} (digit : c.isDigit = false) (point : c ≠ '.') (mark : c ≠ 'e')
    (mark' : c ≠ 'E') (s : List Char) : Stops (c :: s) := by
  intro d head
  obtain rfl : c = d := by simpa using head
  exact ⟨digit, point, mark, mark'⟩

theorem digits_read {text : List Char} (digits : Digits text) (undigited : Undigited rest)
    (atEnd : Fault) : Json.digits atEnd (text ++ rest) = .ok (text, rest) := by
  obtain ⟨some, all⟩ := digits
  have taken : rest.takeWhile Char.isDigit = [] ∧ rest.dropWhile Char.isDigit = rest := by
    cases rest with
    | nil => exact ⟨rfl, rfl⟩
    | cons c s =>
      have other := undigited c rfl
      exact ⟨List.takeWhile_cons_of_neg (by simp [other]),
        List.dropWhile_cons_of_neg (by simp [other])⟩
  have take : (text ++ rest).takeWhile Char.isDigit = text ++ rest.takeWhile Char.isDigit :=
    List.takeWhile_append_of_pos all
  have drop : (text ++ rest).dropWhile Char.isDigit = rest.dropWhile Char.isDigit :=
    List.dropWhile_append_of_pos all
  rw [taken.1, List.append_nil] at take
  rw [taken.2] at drop
  cases text with
  | nil => exact absurd rfl some
  | cons c text =>
    have first : c.isDigit = true := all c List.mem_cons_self
    rw [List.cons_append] at take drop ⊢
    rw [Json.digits, if_pos first, take, drop]

theorem Whole.head {text : List Char} (whole : Whole text) :
    ∃ c s, text = c :: s ∧ c.isDigit = true := by
  cases whole with
  | zero => exact ⟨_, _, rfl, rfl⟩
  | digits digits => exact ⟨_, _, rfl, digits _ List.mem_cons_self⟩

theorem Whole.digits' {text : List Char} (whole : Whole text) : Digits text := by
  cases whole with
  | zero => exact ⟨by simp, by simp⟩
  | digits digits nonzero => exact ⟨by simp, digits⟩

theorem Whole.read {text : List Char} (whole : Whole text) (undigited : Undigited rest)
    (atEnd : Fault) : wholePart atEnd (text ++ rest) = .ok (text, rest) := by
  rw [wholePart, digits_read whole.digits' undigited]
  cases whole with
  | zero => rfl
  | digits digits nonzero =>
    split
    · simp_all
    · rfl

theorem Whole.not_minus {text : List Char} (whole : Whole text) (rest : List Char) :
    numberSign (text ++ rest) = (false, text ++ rest) := by
  cases whole with
  | zero => rfl
  | @digits c text digits nonzero =>
    have first : c.isDigit = true := digits c List.mem_cons_self
    rw [List.cons_append]
    unfold numberSign
    split
    · simp_all
    · rfl

theorem FractionOf.undigited {digits : Option (List Char)} {text : List Char}
    (fraction : FractionOf digits text) (undigited : Undigited rest) :
    Undigited (text ++ rest) := by
  cases fraction with
  | absent => exact undigited
  | present digits =>
    intro c head
    obtain rfl : '.' = c := by simpa using head
    rfl

theorem FractionOf.read {digits : Option (List Char)} {text : List Char}
    (fraction : FractionOf digits text) (undigited : Undigited rest) (point : '.' ∉ rest.head?)
    (atEnd : Fault) : fractionPart atEnd (text ++ rest) = .ok (digits, rest) := by
  cases fraction with
  | absent =>
    rw [List.nil_append]
    unfold fractionPart
    split
    · exact absurd rfl point
    · rfl
  | present digits =>
    rw [List.cons_append, fractionPart, digits_read digits undigited]
    rfl

theorem ExponentOf.stops {power : Option (Bool × List Char)} {text : List Char}
    (exponent : ExponentOf power text) (stops : Stops rest) :
    Undigited (text ++ rest) ∧ '.' ∉ (text ++ rest).head? := by
  cases exponent with
  | absent => exact ⟨stops.undigited, fun head => (stops '.' head).2.1 rfl⟩
  | present marks signs digits =>
    simp only [List.mem_cons, List.not_mem_nil, or_false] at marks
    rcases marks with rfl | rfl <;> simp [Undigited]

theorem exponentSign_read {negative : Bool} {sign text : List Char}
    (signs : (negative, sign) ∈ [(false, []), (false, ['+']), (true, ['-'])])
    (digits : Digits text) (rest : List Char) :
    exponentSign (sign ++ (text ++ rest)) = (negative, text ++ rest) := by
  simp only [List.mem_cons, List.not_mem_nil, or_false, Prod.mk.injEq] at signs
  rcases signs with ⟨rfl, rfl⟩ | ⟨rfl, rfl⟩ | ⟨rfl, rfl⟩
  · obtain ⟨some, all⟩ := digits
    cases text with
    | nil => exact absurd rfl some
    | cons c text =>
      have first : c.isDigit = true := all c List.mem_cons_self
      rw [List.nil_append, List.cons_append]
      unfold exponentSign
      split
      · simp_all
      · simp_all
      · rfl
  · rfl
  · rfl

theorem ExponentOf.read {power : Option (Bool × List Char)} {text : List Char}
    (exponent : ExponentOf power text) (stops : Stops rest) (atEnd : Fault) :
    exponentPart atEnd (text ++ rest) = .ok (power, rest) := by
  cases exponent with
  | absent =>
    cases rest with
    | nil => rfl
    | cons c s =>
      obtain ⟨-, -, mark, mark'⟩ := stops c rfl
      rw [List.nil_append, exponentPart, if_neg (by simp [mark, mark'])]
  | present marks signs digits =>
    simp only [List.mem_cons, List.not_mem_nil, or_false] at marks
    rw [List.cons_append, List.append_assoc, exponentPart, if_pos marks,
      exponentSign_read signs digits, digits_read digits stops.undigited]
    rfl

theorem NumberText.Written.read {number : NumberText} {text : List Char}
    (written : number.Written text) (stops : Stops rest) (atEnd : Fault) :
    numberText atEnd (text ++ rest) = .ok (number, rest) := by
  obtain @⟨negative, sign, whole, digits, fraction, power, exponent, signs, wholes, fractions,
    exponents⟩ := written
  obtain ⟨undigited, point⟩ := exponents.stops stops
  have reads := wholes.read (fractions.undigited undigited) atEnd
  have unsigned : numberSign (sign ++ (whole ++ (fraction ++ (exponent ++ rest)))) =
      (negative, whole ++ (fraction ++ (exponent ++ rest))) := by
    simp only [List.mem_cons, List.not_mem_nil, or_false, Prod.mk.injEq] at signs
    rcases signs with ⟨rfl, rfl⟩ | ⟨rfl, rfl⟩
    · exact wholes.not_minus _
    · rfl
  simp only [List.append_assoc, numberText, unsigned, reads, fractions.read undigited point,
    exponents.read stops, ok_bind]
  rfl

end Json

end Preconnect
