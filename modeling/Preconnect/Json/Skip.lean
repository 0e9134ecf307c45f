import Preconnect.Json.Number
import Preconnect.Json.Text

/-!
Passing over a value of any depth. What is open is kept in a list of brackets, so that nothing
depends on how deep a text is nested.
-/
namespace Preconnect.Json

inductive Bracket
  | array
  | object
  deriving DecidableEq

def Bracket.closing : Bracket → Char
  | array => ']'
  | object => '\x7d'

/-- What may come next inside the open brackets. -/
inductive Due
  | value
  /-- The first member of a bracket that has just been opened, or its end. -/
  | opened (bracket : Bracket)
  /-- Another member of the innermost bracket after a comma, or its end. -/
  | rest
  deriving DecidableEq

/-- Where no character is read, an opened bracket comes before the value that may start it. -/
def Due.rank : Due → Nat
  | opened _ => 1
  | value | rest => 0

def skipText (s : List Char) : Except Fault (List Char) :=
  (textBody .skip s).map Prod.snd

def skipStart (s : List Char) : Except Fault (Option Bracket × List Char) :=
  match s with
  | [] => .error .truncated
  | 'n' :: rest => (expect ['u', 'l', 'l'] rest).map (none, ·)
  | 't' :: rest => (expect ['r', 'u', 'e'] rest).map (none, ·)
  | 'f' :: rest => (expect ['a', 'l', 's', 'e'] rest).map (none, ·)
  | '"' :: rest => (skipText rest).map (none, ·)
  | '[' :: rest => .ok (some .array, rest)
  | '\x7b' :: rest => .ok (some .object, rest)
  | c :: rest =>
    if c = '-' ∨ c.isDigit then
      (numberText .malformed (c :: rest)).map fun (_, rest) => (none, rest)
    else .error .malformed

def skipKey (s : List Char) : Except Fault (List Char) :=
  match skipSpace s with
  | [] => .error .truncated
  | '"' :: rest => do
    let rest ← skipText rest
    match skipSpace rest with
    | [] => .error .truncated
    | ':' :: rest => .ok rest
    | _ :: _ => .error .malformed
  | _ :: _ => .error .malformed

def Bracket.enter : Bracket → List Char → Except Fault (List Char)
  | array, s => .ok s
  | object, s => skipKey s

theorem skipText_length {s rest : List Char} (h : skipText s = .ok rest) :
    rest.length < s.length := by
  obtain ⟨⟨cs, r⟩, ht, rfl⟩ := map_eq_ok h
  exact textBody_length ht

theorem skipStart_length {s rest : List Char} {b : Option Bracket}
    (h : skipStart s = .ok (b, rest)) : rest.length < s.length := by
  unfold skipStart at h
  split at h
  · contradiction
  iterate 3
    · obtain ⟨r, hr, he⟩ := map_eq_ok h
      cases he
      exact Nat.lt_succ_of_le (expect_length_le hr)
  · obtain ⟨r, hr, he⟩ := map_eq_ok h
    cases he
    exact Nat.lt_succ_of_lt (skipText_length hr)
  · cases h; simp
  · cases h; simp
  · split at h
    · obtain ⟨⟨t, r⟩, hr, he⟩ := map_eq_ok h
      cases he
      exact numberText_length hr
    · contradiction

theorem skipKey_length {s rest : List Char} (h : skipKey s = .ok rest) :
    rest.length < s.length := by
  have hs := length_skipSpace_le s
  unfold skipKey at h
  split at h
  · contradiction
  · rename_i r hr
    obtain ⟨r', ht, h⟩ := bind_eq_ok h
    have := skipText_length ht
    have hs' := length_skipSpace_le r'
    rw [hr] at hs
    split at h
    · contradiction
    · rename_i hr'
      cases h
      rw [hr'] at hs'
      simp only [List.length_cons] at *; omega
    · contradiction
  · contradiction

theorem Bracket.enter_length {b : Bracket} {s rest : List Char} (h : b.enter s = .ok rest) :
    rest.length ≤ s.length := by
  cases b with
  | array => cases h; exact Nat.le_refl _
  | object => exact Nat.le_of_lt (skipKey_length h)

theorem length_lt_of_skipSpace {s rest : List Char} {c : Char} (h : skipSpace s = c :: rest) :
    rest.length < s.length := by
  have := length_skipSpace_le s
  rw [h] at this
  exact this

/-- Passes over all that is due until every bracket is closed. -/
def skipOn (due : Due) (brackets : List Bracket) (s : List Char) : Except Fault (List Char) :=
  match due with
  | .value =>
    match _h : skipStart (skipSpace s) with
    | .error fault => .error fault
    | .ok (none, rest) => skipOn .rest brackets rest
    | .ok (some bracket, rest) => skipOn (.opened bracket) brackets rest
  | .opened bracket =>
    match _h : skipSpace s with
    | [] => .error .truncated
    | c :: rest =>
      if c = bracket.closing then skipOn .rest brackets rest
      else
        match _he : bracket.enter (c :: rest) with
        | .error fault => .error fault
        | .ok rest => skipOn .value (bracket :: brackets) rest
  | .rest =>
    match brackets with
    | [] => .ok s
    | bracket :: brackets =>
      match _h : skipSpace s with
      | [] => .error .truncated
      | c :: rest =>
        if c = ',' then
          match _he : bracket.enter rest with
          | .error fault => .error fault
          | .ok rest => skipOn .value (bracket :: brackets) rest
        else if c = bracket.closing then skipOn .rest brackets rest
        else .error .malformed
termination_by 2 * s.length + due.rank
decreasing_by
  · have := skipStart_length _h
    have := length_skipSpace_le s
    simp only [Due.rank]; omega
  · have := skipStart_length _h
    have := length_skipSpace_le s
    simp only [Due.rank]; omega
  · have := length_lt_of_skipSpace _h
    simp only [Due.rank]; omega
  · have := length_lt_of_skipSpace _h
    have := Bracket.enter_length _he
    simp only [Due.rank, List.length_cons] at *; omega
  · have := length_lt_of_skipSpace _h
    have := Bracket.enter_length _he
    simp only [Due.rank]; omega
  · have := length_lt_of_skipSpace _h
    simp only [Due.rank]; omega

theorem skipOn_length {due : Due} {brackets : List Bracket} {s rest : List Char}
    (h : skipOn due brackets s = .ok rest) : rest.length ≤ s.length := by
  fun_induction skipOn due brackets s <;> try contradiction
  case case2 s r hs ih | case3 s _ r hs ih =>
    have := skipStart_length hs
    have := length_skipSpace_le s
    have := ih h
    omega
  case case5 hs ih | case12 hs _ ih =>
    have := length_lt_of_skipSpace hs
    have := ih h
    omega
  case case7 hs _ _ he ih =>
    have := length_lt_of_skipSpace hs
    have := Bracket.enter_length he
    have := ih h
    simp only [List.length_cons] at *
    omega
  case case11 he hs ih =>
    have := length_lt_of_skipSpace hs
    have := Bracket.enter_length he
    have := ih h
    omega
  case case8 => cases h; exact Nat.le_refl _

def skipValue (s : List Char) : Except Fault (List Char) := skipOn .value [] s

end Preconnect.Json
