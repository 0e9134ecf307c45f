import Preconnect.Json.Fault

/-!
The inside of a JSON string, from the opening quote on. It is a row of pieces, each a character
that stands for itself or an escape, up to the closing quote.
-/
namespace Preconnect.Json

def hexDigit? (c : Char) : Option Nat :=
  if '0' ≤ c ∧ c ≤ '9' then some (c.toNat - '0'.toNat)
  else if 'a' ≤ c ∧ c ≤ 'f' then some (c.toNat - 'a'.toNat + 10)
  else if 'A' ≤ c ∧ c ≤ 'F' then some (c.toNat - 'A'.toNat + 10)
  else none

def hexQuad? (a b c d : Char) : Option Nat := do
  let a ← hexDigit? a
  let b ← hexDigit? b
  let c ← hexDigit? c
  let d ← hexDigit? d
  some (((a * 16 + b) * 16 + c) * 16 + d)

/-- Reads four hexadecimal digits. The digits are looked at only if four bytes are there. -/
def hexQuad : List Char → Except Fault (Nat × List Char)
  | a :: b :: c :: d :: rest =>
    match hexQuad? a b c d with
    | some unit => .ok (unit, rest)
    | none => .error .malformed
  | short =>
    .error (if (short.map Char.utf8Size).foldr (· + ·) 0 < 4 then .truncated else .malformed)

theorem hexQuad_length {s : List Char} {unit : Nat} {rest : List Char}
    (h : hexQuad s = .ok (unit, rest)) : rest.length < s.length := by
  unfold hexQuad at h
  split at h
  · split at h
    · cases h; simp; omega
    · cases h
  · cases h

def isHighSurrogate (unit : Nat) : Bool := 0xD800 ≤ unit && unit < 0xDC00

def isLowSurrogate (unit : Nat) : Bool := 0xDC00 ≤ unit && unit < 0xE000

def pairChar (high low : Nat) : Char :=
  Char.ofNat (0x10000 + (high - 0xD800) * 0x400 + (low - 0xDC00))

def lowSurrogate (high : Nat) : List Char → Except Fault (Char × List Char)
  | [] => .error .truncated
  | '\\' :: [] => .error .truncated
  | '\\' :: 'u' :: rest =>
    match hexQuad rest with
    | .error fault => .error fault
    | .ok (low, rest) =>
      if isLowSurrogate low then .ok (pairChar high low, rest) else .error .malformed
  | _ :: _ => .error .malformed

theorem lowSurrogate_length {high : Nat} {s : List Char} {c : Char} {rest : List Char}
    (h : lowSurrogate high s = .ok (c, rest)) : rest.length < s.length := by
  unfold lowSurrogate at h
  split at h
  · contradiction
  · contradiction
  · split at h
    · contradiction
    · rename_i hq
      have := hexQuad_length hq
      split at h
      · simp only [Except.ok.injEq, Prod.mk.injEq] at h
        obtain ⟨-, rfl⟩ := h
        simp only [List.length_cons]; omega
      · contradiction
  · contradiction

/-- How the escapes by code unit are treated: a string that is read must be made of characters, in
one that is skipped any four digits will do. -/
inductive Care
  | read
  | skip
  deriving DecidableEq

def unitEscape (care : Care) (s : List Char) : Except Fault (Char × List Char) :=
  match hexQuad s with
  | .error fault => .error fault
  | .ok (unit, rest) =>
    match care with
    | .skip => .ok (Char.ofNat unit, rest)
    | .read =>
      if isHighSurrogate unit then lowSurrogate unit rest
      else if isLowSurrogate unit then .error .malformed
      else .ok (Char.ofNat unit, rest)

theorem unitEscape_length {care : Care} {s : List Char} {c : Char} {rest : List Char}
    (h : unitEscape care s = .ok (c, rest)) : rest.length < s.length := by
  unfold unitEscape at h
  split at h
  · cases h
  · rename_i hq
    have := hexQuad_length hq
    split at h
    · cases h; assumption
    · split at h
      · have := lowSurrogate_length h; omega
      · split at h <;> cases h
        assumption

def shortEscape? : Char → Option Char
  | '"' => some '"'
  | '\\' => some '\\'
  | '/' => some '/'
  | 'b' => some '\x08'
  | 'f' => some '\x0c'
  | 'n' => some '\n'
  | 'r' => some '\r'
  | 't' => some '\t'
  | _ => none

def anyEscape (care : Care) : List Char → Except Fault (Char × List Char)
  | [] => .error .truncated
  | 'u' :: rest => unitEscape care rest
  | letter :: rest =>
    match shortEscape? letter with
    | some c => .ok (c, rest)
    | none => .error .malformed

theorem anyEscape_length {care : Care} {s : List Char} {c : Char} {rest : List Char}
    (h : anyEscape care s = .ok (c, rest)) : rest.length < s.length := by
  unfold anyEscape at h
  split at h
  · cases h
  · have := unitEscape_length h; simp only [List.length_cons]; omega
  · split at h <;> cases h
    simp

def piece (care : Care) : List Char → Except Fault (Option Char × List Char)
  | [] => .error .truncated
  | '"' :: rest => .ok (none, rest)
  | '\\' :: rest => (anyEscape care rest).map fun (c, rest) => (some c, rest)
  | c :: rest => if c.toNat < 0x20 then .error .malformed else .ok (some c, rest)

theorem piece_length {care : Care} {s : List Char} {c : Option Char} {rest : List Char}
    (h : piece care s = .ok (c, rest)) : rest.length < s.length := by
  unfold piece at h
  split at h
  · cases h
  · cases h; simp
  · rename_i s
    cases he : anyEscape care s with
    | error => rw [he] at h; cases h
    | ok p =>
      rw [he] at h
      cases h
      have := anyEscape_length he
      simp only [List.length_cons]; omega
  · split at h <;> cases h
    simp

def textBody (care : Care) (s : List Char) : Except Fault (List Char × List Char) :=
  match _h : piece care s with
  | .error fault => .error fault
  | .ok (none, rest) => .ok ([], rest)
  | .ok (some c, rest) => (textBody care rest).map fun (cs, rest) => (c :: cs, rest)
termination_by s.length
decreasing_by exact piece_length _h

theorem textBody_length {care : Care} {s cs rest : List Char}
    (h : textBody care s = .ok (cs, rest)) : rest.length < s.length := by
  induction hn : s.length using Nat.strongRecOn generalizing s cs with
  | ind n ih =>
    subst hn
    rw [textBody] at h
    split at h
    · cases h
    · rename_i hp
      cases h
      exact piece_length hp
    · rename_i c r hp
      have hr := piece_length hp
      cases ht : textBody care r with
      | error => rw [ht] at h; cases h
      | ok p =>
        obtain ⟨cs', rest'⟩ := p
        rw [ht] at h
        cases h
        have := ih r.length hr ht rfl
        omega

end Preconnect.Json
