import Preconnect.Proofs.Recovering

/-!
Decimal digits. Every number has a text that the grammar allows, and no other text of a whole number
is worth as much.
-/
namespace Preconnect.Json

theorem head_toDigits_ne {n : Nat} (positive : 0 < n) :
    ∃ c text, Nat.toDigits 10 n = c :: text ∧ c ≠ '0' := by
  induction n using Nat.strongRecOn with
  | ind n ih =>
    rw [Nat.toDigits_eq_if (by decide)]
    by_cases small : n < 10
    · rw [if_pos small]
      have nonzero : ∀ m < 10, 0 < m → m.digitChar ≠ '0' := by decide
      exact ⟨_, [], rfl, nonzero n small positive⟩
    · rw [if_neg small]
      obtain ⟨c, text, same, nonzero⟩ := ih (n / 10) (by omega) (by omega)
      rw [same]
      exact ⟨c, _, rfl, nonzero⟩

theorem whole_toDigits (n : Nat) : Whole (Nat.toDigits 10 n) := by
  cases n with
  | zero => exact .zero
  | succ n =>
    obtain ⟨c, text, same, nonzero⟩ := head_toDigits_ne n.succ_pos
    rw [same]
    refine .digits (fun d member => ?_) nonzero
    rw [← same] at member
    exact Nat.isDigit_of_mem_toDigits (by decide) (by decide) member

theorem decimalValue_toDigits (n : Nat) : decimalValue (Nat.toDigits 10 n) = n := by
  have value := @Nat.ofDigitChars_toDigits 10 n (by decide) (by decide)
  rwa [Nat.ofDigitChars_eq_foldl] at value

theorem digit_spec {c : Char} (digit : c.isDigit = true) :
    Nat.toDigits 10 (digitValue c) = [c] ∧ digitValue c < 10 ∧
      (c ≠ '0' → 0 < digitValue c) := by
  have ascii : c.toNat < 128 := by
    simp only [Char.isDigit, Bool.and_eq_true, decide_eq_true_eq] at digit
    exact Nat.lt_of_le_of_lt (UInt32.le_iff_toNat_le.1 digit.2) (by decide)
  have all : ∀ n < 128, (Char.ofNat n).isDigit = true →
      Nat.toDigits 10 (digitValue (.ofNat n)) = [.ofNat n] ∧
        digitValue (.ofNat n) < 10 ∧ (Char.ofNat n ≠ '0' → 0 < digitValue (.ofNat n)) := by
    decide +kernel
  exact of_ascii (fun c => c.isDigit = true → Nat.toDigits 10 (digitValue c) = [c] ∧
    digitValue c < 10 ∧ (c ≠ '0' → 0 < digitValue c)) ascii all digit

theorem toDigits_foldl {n : Nat} (positive : 0 < n) {text : List Char}
    (digits : ∀ c ∈ text, c.isDigit = true) :
    Nat.toDigits 10 (text.foldl (fun n c => 10 * n + digitValue c) n) =
      Nat.toDigits 10 n ++ text := by
  induction text generalizing n with
  | nil => simp
  | cons c text ih =>
    obtain ⟨digit, digits⟩ := List.forall_mem_cons.1 digits
    obtain ⟨single, small, -⟩ := digit_spec digit
    rw [List.foldl_cons, ih (by omega) digits,
      ← Nat.toDigits_append_toDigits (by decide) positive small, single, List.append_assoc,
      List.singleton_append]

/-- A whole number is written in one way only. -/
theorem toDigits_decimalValue {text : List Char} (whole : Whole text) :
    Nat.toDigits 10 (decimalValue text) = text := by
  cases whole with
  | zero => rfl
  | @digits c text digits nonzero =>
    obtain ⟨digit, others⟩ := List.forall_mem_cons.1 digits
    obtain ⟨single, -, positive⟩ := digit_spec digit
    rw [decimalValue, List.foldl_cons, Nat.mul_zero, Nat.zero_add,
      toDigits_foldl (positive nonzero) others, single, List.singleton_append]

end Preconnect.Json
