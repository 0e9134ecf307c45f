import Preconnect.Json.Skip
import Preconnect.Json.Write

/-!
JSON as its grammar has it: what stands between tokens, how a string can be spelled, what a number
looks like, and which texts are values. Nothing here says how a text is read.
-/
namespace Preconnect.Json

def Gap (text : List Char) : Prop := ∀ c ∈ text, c ∈ [' ', '\t', '\n', '\r']

def hexDigits : List (Char × Nat) :=
  "0123456789abcdef".toList.zipIdx ++ "ABCDEF".toList.zipIdx 10

/-- Four hexadecimal digits, with letters of either case, that make a code unit. -/
inductive Quad : Nat → List Char → Prop
  | mk {a b c d : Char × Nat} (first : a ∈ hexDigits) (second : b ∈ hexDigits)
      (third : c ∈ hexDigits) (fourth : d ∈ hexDigits) :
    Quad (((a.2 * 16 + b.2) * 16 + c.2) * 16 + d.2) [a.1, b.1, c.1, d.1]

def shortEscapes : List (Char × Char) :=
  [('"', '"'), ('\\', '\\'), ('/', '/'), ('b', '\x08'), ('f', '\x0c'), ('n', '\n'), ('r', '\r'),
    ('t', '\t')]

/-- The ways to write one character of a string. A character that does not fit a code unit takes
two of them. Where nobody reads the string, a single one of two will do. -/
inductive Piece : Care → Char → List Char → Prop
  | plain {care : Care} {c : Char} (visible : 0x20 ≤ c.toNat) (unquoted : c ≠ '"')
      (unescaped : c ≠ '\\') :
    Piece care c [c]
  | short {care : Care} {letter c : Char} (escape : (letter, c) ∈ shortEscapes) :
    Piece care c ['\\', letter]
  | unit {c : Char} {text : List Char} (quad : Quad c.toNat text) :
    Piece .read c ('\\' :: 'u' :: text)
  | pair {c : Char} {high low : List Char} (wide : 0x10000 ≤ c.toNat)
      (first : Quad (0xD800 + (c.toNat - 0x10000) / 0x400) high)
      (second : Quad (0xDC00 + (c.toNat - 0x10000) % 0x400) low) :
    Piece .read c ('\\' :: 'u' :: high ++ '\\' :: 'u' :: low)
  | loose {unit : Nat} {text : List Char} (quad : Quad unit text) :
    Piece .skip (Char.ofNat unit) ('\\' :: 'u' :: text)

inductive Spells (care : Care) : List Char → List Char → Prop
  | nil : Spells care [] []
  | cons {c : Char} {cs piece text : List Char} (first : Piece care c piece)
      (rest : Spells care cs text) :
    Spells care (c :: cs) (piece ++ text)

def Digits (text : List Char) : Prop := text ≠ [] ∧ ∀ c ∈ text, c.isDigit = true

/-- The whole part of a number, which starts with a zero only if it is one. -/
inductive Whole : List Char → Prop
  | zero : Whole ['0']
  | digits {c : Char} {text : List Char} (digits : ∀ d ∈ c :: text, d.isDigit = true)
      (nonzero : c ≠ '0') :
    Whole (c :: text)

inductive Fraction : List Char → Prop
  | absent : Fraction []
  | present {text : List Char} (digits : Digits text) : Fraction ('.' :: text)

inductive Exponent : List Char → Prop
  | absent : Exponent []
  | present {mark : Char} {sign text : List Char} (marks : mark ∈ ['e', 'E'])
      (signs : sign ∈ [[], ['+'], ['-']]) (digits : Digits text) :
    Exponent (mark :: (sign ++ text))

inductive Numeral : List Char → Prop
  | mk {sign whole fraction exponent : List Char} (signs : sign ∈ [[], ['-']])
      (wholes : Whole whole) (fractions : Fraction fraction) (exponents : Exponent exponent) :
    Numeral (sign ++ (whole ++ (fraction ++ exponent)))

inductive FractionOf : Option (List Char) → List Char → Prop
  | absent : FractionOf none []
  | present {text : List Char} (digits : Digits text) : FractionOf (some text) ('.' :: text)

inductive ExponentOf : Option (Bool × List Char) → List Char → Prop
  | absent : ExponentOf none []
  | present {mark : Char} {negative : Bool} {sign text : List Char} (marks : mark ∈ ['e', 'E'])
      (signs : (negative, sign) ∈ [(false, []), (false, ['+']), (true, ['-'])])
      (digits : Digits text) :
    ExponentOf (some (negative, text)) (mark :: (sign ++ text))

inductive NumberText.Written : NumberText → List Char → Prop
  | mk {negative : Bool} {sign whole : List Char} {digits : Option (List Char)}
      {fraction : List Char} {power : Option (Bool × List Char)} {exponent : List Char}
      (signs : (negative, sign) ∈ [(false, []), (true, ['-'])]) (wholes : Whole whole)
      (fractions : FractionOf digits fraction) (exponents : ExponentOf power exponent) :
    Written ⟨negative, whole, digits, power⟩ (sign ++ (whole ++ (fraction ++ exponent)))

/-- What can be derived: a value, an element or a member with the white space around it, or all
those between the brackets of an array or an object that is not empty. -/
inductive Phrase
  | value
  | item (bracket : Bracket)
  | items (bracket : Bracket)

inductive Derives : Phrase → List Char → Prop
  | word {word : String} (words : word ∈ ["null", "true", "false"]) : Derives .value word.toList
  | number {text : List Char} (numeral : Numeral text) : Derives .value text
  | text {cs text : List Char} (spells : Spells .skip cs text) :
    Derives .value ('"' :: (text ++ ['"']))
  | emptyArray {gap : List Char} (gaps : Gap gap) : Derives .value ('[' :: (gap ++ [']']))
  | array {text : List Char} (elements : Derives (.items .array) text) :
    Derives .value ('[' :: (text ++ [']']))
  | emptyObject {gap : List Char} (gaps : Gap gap) : Derives .value ('\x7b' :: (gap ++ ['\x7d']))
  | object {text : List Char} (members : Derives (.items .object) text) :
    Derives .value ('\x7b' :: (text ++ ['\x7d']))
  | element {before text behind : List Char} (gap : Gap before) (value : Derives .value text)
      (gap₁ : Gap behind) :
    Derives (.item .array) (before ++ (text ++ behind))
  | member {before cs key between ahead text behind : List Char} (gap : Gap before)
      (spells : Spells .skip cs key) (gap₁ : Gap between) (gap₂ : Gap ahead)
      (value : Derives .value text) (gap₃ : Gap behind) :
    Derives (.item .object)
      (before ++ '"' :: (key ++ '"' :: (between ++ ':' :: (ahead ++ (text ++ behind)))))
  | last {bracket : Bracket} {text : List Char} (item : Derives (.item bracket) text) :
    Derives (.items bracket) text
  | more {bracket : Bracket} {text rest : List Char} (item : Derives (.item bracket) text)
      (items : Derives (.items bracket) rest) :
    Derives (.items bracket) (text ++ ',' :: rest)

inductive Row {α : Type} (item : α → List Char → Prop) : List α → List Char → Prop
  | last {a : α} {text : List Char} (first : item a text) : Row item [a] text
  | more {a : α} {as : List α} {text rest : List Char} (first : item a text)
      (others : Row item as rest) :
    Row item (a :: as) (text ++ ',' :: rest)

theorem Row.derives {α : Type} {item : α → List Char → Prop} {bracket : Bracket}
    (derives : ∀ {a text}, item a text → Derives (.item bracket) text) {as : List α}
    {text : List Char} (row : Row item as text) : Derives (.items bracket) text := by
  induction row with
  | last first => exact .last (derives first)
  | more first _ ih => exact .more (derives first) ih

/-- The items between two brackets are a row of whatever each of them can be taken for. -/
theorem Derives.row {α : Type} {item : α → List Char → Prop} {bracket : Bracket}
    (taken : ∀ {text}, Derives (.item bracket) text → ∃ a, item a text) {text : List Char}
    (items : Derives (.items bracket) text) : ∃ as, Row item as text := by
  generalize same : Phrase.items bracket = phrase at items
  induction items with
  | last first =>
    cases same
    obtain ⟨a, first⟩ := taken first
    exact ⟨[a], .last first⟩
  | more first _ _ ih =>
    cases same
    obtain ⟨a, first⟩ := taken first
    obtain ⟨as, others⟩ := ih rfl
    exact ⟨a :: as, .more first others⟩
  | word | number | text | emptyArray | array | emptyObject | object | element | member =>
    cases same

theorem Fraction.shown {text : List Char} (fraction : Fraction text) :
    ∃ digits, FractionOf digits text := by
  cases fraction with
  | absent => exact ⟨_, .absent⟩
  | present digits => exact ⟨_, .present digits⟩

theorem FractionOf.fraction {digits : Option (List Char)} {text : List Char}
    (fraction : FractionOf digits text) : Fraction text := by
  cases fraction with
  | absent => exact .absent
  | present digits => exact .present digits

theorem Exponent.shown {text : List Char} (exponent : Exponent text) :
    ∃ power, ExponentOf power text := by
  cases exponent with
  | absent => exact ⟨_, .absent⟩
  | present marks signs digits =>
    simp only [List.mem_cons, List.not_mem_nil, or_false] at signs
    rcases signs with rfl | rfl | rfl
    · exact ⟨some (false, _), .present marks (by simp) digits⟩
    · exact ⟨some (false, _), .present marks (by simp) digits⟩
    · exact ⟨some (true, _), .present marks (by simp) digits⟩

theorem ExponentOf.exponent {power : Option (Bool × List Char)} {text : List Char}
    (exponent : ExponentOf power text) : Exponent text := by
  cases exponent with
  | absent => exact .absent
  | present marks signs digits =>
    refine .present marks ?_ digits
    simp only [List.mem_cons, List.not_mem_nil, or_false, Prod.mk.injEq] at signs
    rcases signs with ⟨-, rfl⟩ | ⟨-, rfl⟩ | ⟨-, rfl⟩ <;> simp

theorem Numeral.written {text : List Char} (numeral : Numeral text) :
    ∃ number : NumberText, number.Written text := by
  obtain ⟨signs, wholes, fractions, exponents⟩ := numeral
  obtain ⟨digits, fractions⟩ := fractions.shown
  obtain ⟨power, exponents⟩ := exponents.shown
  simp only [List.mem_cons, List.not_mem_nil, or_false] at signs
  rcases signs with rfl | rfl
  · exact ⟨⟨false, _, digits, power⟩, .mk (by simp) wholes fractions exponents⟩
  · exact ⟨⟨true, _, digits, power⟩, .mk (by simp) wholes fractions exponents⟩

theorem NumberText.Written.numeral {number : NumberText} {text : List Char}
    (written : number.Written text) : Numeral text := by
  obtain ⟨signs, wholes, fractions, exponents⟩ := written
  refine .mk ?_ wholes fractions.fraction exponents.exponent
  simp only [List.mem_cons, List.not_mem_nil, or_false, Prod.mk.injEq] at signs
  rcases signs with ⟨-, rfl⟩ | ⟨-, rfl⟩ <;> simp

theorem quad_of_digits {a b c d : Char × Nat} {unit : Nat} (first : a ∈ hexDigits)
    (second : b ∈ hexDigits) (third : c ∈ hexDigits) (fourth : d ∈ hexDigits)
    (value : ((a.2 * 16 + b.2) * 16 + c.2) * 16 + d.2 = unit) :
    Quad unit [a.1, b.1, c.1, d.1] := by
  rw [← value]
  exact .mk first second third fourth

theorem quad_control {c : Char} (control : c.toNat < 0x20) :
    Quad c.toNat ['0', '0', Nat.digitChar (c.toNat / 16), Nat.digitChar (c.toNat % 16)] := by
  have digits : ∀ n < 16, (Nat.digitChar n, n) ∈ hexDigits := by decide
  have zero := digits 0 (by decide)
  have high := digits (c.toNat / 16) (by omega)
  have low := digits (c.toNat % 16) (by omega)
  exact quad_of_digits zero zero high low (by omega)

theorem piece_writeChar (c : Char) : Piece .read c (writeChar c) := by
  unfold writeChar
  split
  iterate 7
    · exact .short (by decide)
  · split
    · rename_i control
      exact .unit (quad_control control)
    · rename_i unquoted unescaped _ _ _ _ _ visible
      exact .plain (Nat.not_lt.1 visible) unquoted unescaped

theorem spells_written (cs : List Char) : Spells .read cs (cs.flatMap writeChar) := by
  induction cs with
  | nil => exact .nil
  | cons c cs ih =>
    rw [List.flatMap_cons]
    exact .cons (piece_writeChar c) ih

end Preconnect.Json
