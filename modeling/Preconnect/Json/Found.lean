import Preconnect.Json.Number
import Preconnect.Json.Text

/-!
The value that a reader comes upon. Arrays and objects are known by their opening bracket; what is
inside them is left to whoever expected one.
-/
namespace Preconnect.Json

inductive Found
  | null
  | bool (value : Bool)
  | number (value : Number)
  | text (value : String)
  | sequence
  | map
  deriving DecidableEq

def found (s : List Char) : Except Fault (Found × List Char) :=
  match s with
  | [] => .error .truncated
  | 'n' :: rest => (expect ['u', 'l', 'l'] rest).map (.null, ·)
  | 't' :: rest => (expect ['r', 'u', 'e'] rest).map (.bool true, ·)
  | 'f' :: rest => (expect ['a', 'l', 's', 'e'] rest).map (.bool false, ·)
  | '"' :: rest => (textBody .read rest).map fun (cs, rest) => (.text (String.ofList cs), rest)
  | '[' :: rest => .ok (.sequence, rest)
  | '\x7b' :: rest => .ok (.map, rest)
  | c :: rest =>
    if c = '-' ∨ c.isDigit then (number (c :: rest)).map fun (n, rest) => (.number n, rest)
    else .error .malformed

theorem number_length {s rest : List Char} {n : Number} (h : number s = .ok (n, rest)) :
    rest.length < s.length := by
  obtain ⟨⟨text, r⟩, ht, h⟩ := bind_eq_ok h
  dsimp only at h
  split at h
  · cases h; exact numberText_length ht
  · contradiction

theorem found_length {s rest : List Char} {value : Found} (h : found s = .ok (value, rest)) :
    rest.length < s.length := by
  unfold found at h
  split at h
  · contradiction
  iterate 3
    · obtain ⟨r, hr, he⟩ := map_eq_ok h
      cases he
      exact Nat.lt_succ_of_le (expect_length_le hr)
  · obtain ⟨⟨cs, r⟩, hr, he⟩ := map_eq_ok h
    cases he
    exact Nat.lt_succ_of_lt (textBody_length hr)
  · cases h; simp
  · cases h; simp
  · split at h
    · obtain ⟨⟨n, r⟩, hr, he⟩ := map_eq_ok h
      cases he
      exact number_length hr
    · contradiction

end Preconnect.Json
