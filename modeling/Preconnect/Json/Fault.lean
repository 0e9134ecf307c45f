/-!
The two ways in which a text can fail to be JSON, and the white space between its tokens.
-/
namespace Preconnect.Json

/-- The text stops too early, or something in it does not belong there. -/
inductive Fault
  | truncated
  | malformed
  deriving DecidableEq, Inhabited

theorem map_eq_ok {α β : Type} {x : Except Fault α} {f : α → β} {y : β}
    (h : x.map f = .ok y) : ∃ a, x = .ok a ∧ f a = y := by
  cases x with
  | error => cases h
  | ok a => exact ⟨a, rfl, by cases h; rfl⟩

theorem bind_eq_ok {α β : Type} {x : Except Fault α} {f : α → Except Fault β} {y : β}
    (h : (x >>= f) = .ok y) : ∃ a, x = .ok a ∧ f a = .ok y := by
  cases x with
  | error => cases h
  | ok a => exact ⟨a, rfl, h⟩

def isSpace (c : Char) : Bool :=
  c == ' ' || c == '\n' || c == '\t' || c == '\r'

def skipSpace (s : List Char) : List Char := s.dropWhile isSpace

theorem length_skipSpace_le (s : List Char) : (skipSpace s).length ≤ s.length :=
  (List.dropWhile_sublist isSpace).length_le

def expect : List Char → List Char → Except Fault (List Char)
  | [], s => .ok s
  | _ :: _, [] => .error .truncated
  | a :: letters, c :: s => if a == c then expect letters s else .error .malformed

theorem expect_length_le {letters s rest : List Char} (h : expect letters s = .ok rest) :
    rest.length ≤ s.length := by
  fun_induction expect letters s with
  | case1 s => cases h; exact Nat.le_refl _
  | case2 => cases h
  | case3 a letters c s _ ih => exact Nat.le_succ_of_le (ih h)
  | case4 => cases h

end Preconnect.Json
