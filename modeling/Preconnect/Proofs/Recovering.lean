import Preconnect.Proofs.Skipping

/-!
From a reader back to the grammar: whatever a reader takes from the front of a text is one of the
texts that the grammar derives for what it made of it.
-/
namespace Preconnect.Json

variable {care : Care} {c : Char} {s rest : List Char}

theorem gap_nil : Gap [] := fun _ member => by cases member

theorem Gap.append {before behind : List Char} (gap : Gap before) (gap' : Gap behind) :
    Gap (before ++ behind) := fun c member =>
  (List.mem_append.1 member).elim (gap c) (gap' c)

theorem skipSpace_split (s : List Char) : ∃ gap, Gap gap ∧ s = gap ++ skipSpace s := by
  refine ⟨s.takeWhile isSpace, fun c member => ?_, (List.takeWhile_append_dropWhile).symm⟩
  have space := List.mem_takeWhile_imp member
  simp only [isSpace, Bool.or_eq_true, beq_iff_eq] at space
  simp only [List.mem_cons, List.not_mem_nil, or_false]
  tauto

theorem expect_split {letters : List Char} (h : expect letters s = .ok rest) :
    s = letters ++ rest := by
  fun_induction expect letters s with
  | case1 s =>
    cases h
    rfl
  | case2 => cases h
  | case3 a letters c s same ih => rw [ih h, eq_of_beq same, List.cons_append]
  | case4 => cases h

/-- What holds of all ASCII characters can be checked one by one. -/
theorem of_ascii (p : Char → Prop) (ascii : c.toNat < 128) (all : ∀ n < 128, p (.ofNat n)) :
    p c := by
  rw [← Char.ofNat_toNat c]
  exact all _ ascii

/-! ### Strings -/

theorem toNat_le_of_le {c d : Char} (h : c ≤ d) : c.toNat ≤ d.toNat := h

theorem mem_hexDigits {n : Nat} (h : hexDigit? c = some n) : (c, n) ∈ hexDigits := by
  have ascii : c.toNat < 128 := by
    unfold hexDigit? at h
    split at h
    · rename_i range
      exact Nat.lt_of_le_of_lt (toNat_le_of_le range.2) (by decide)
    · split at h
      · rename_i range
        exact Nat.lt_of_le_of_lt (toNat_le_of_le range.2) (by decide)
      · split at h
        · rename_i range
          exact Nat.lt_of_le_of_lt (toNat_le_of_le range.2) (by decide)
        · cases h
  have all : ∀ m < 128, ∀ n ∈ hexDigit? (.ofNat m), (Char.ofNat m, n) ∈ hexDigits := by decide
  exact of_ascii (fun c => ∀ n ∈ hexDigit? c, (c, n) ∈ hexDigits) ascii all n h

theorem hexQuad_split {unit : Nat} (h : hexQuad s = .ok (unit, rest)) :
    ∃ text, Quad unit text ∧ s = text ++ rest := by
  unfold hexQuad at h
  split at h
  · split at h
    · rename_i found
      cases h
      simp only [hexQuad?, Option.bind_eq_bind, Option.bind_eq_some_iff, Option.some.injEq]
        at found
      obtain ⟨a, first, b, second, c, third, d, fourth, rfl⟩ := found
      exact ⟨_, quad_of_digits (mem_hexDigits first) (mem_hexDigits second)
        (mem_hexDigits third) (mem_hexDigits fourth) rfl, rfl⟩
    · cases h
  · cases h

theorem Quad.lt {unit : Nat} {text : List Char} (quad : Quad unit text) : unit < 0x10000 := by
  have all : ∀ digit ∈ hexDigits, digit.2 < 16 := by decide
  obtain ⟨first, second, third, fourth⟩ := quad
  have := all _ first
  have := all _ second
  have := all _ third
  have := all _ fourth
  omega

theorem toNat_ofNat {unit : Nat} (bound : unit < 0x110000) (high : isHighSurrogate unit = false)
    (low : isLowSurrogate unit = false) : (Char.ofNat unit).toNat = unit := by
  have valid : unit.isValidChar := by
    simp only [isHighSurrogate, isLowSurrogate, Bool.and_eq_false_iff, decide_eq_false_iff_not]
      at high low
    unfold Nat.isValidChar
    omega
  rw [Char.ofNat, dif_pos valid]
  rfl

theorem shortEscape?_mem {letter : Char} (h : shortEscape? letter = some c) :
    (letter, c) ∈ shortEscapes := by
  unfold shortEscape? at h
  split at h <;> cases h <;> decide

theorem pairChar_spec {high low : Nat} (isHigh : isHighSurrogate high = true)
    (isLow : isLowSurrogate low = true) :
    0x10000 ≤ (pairChar high low).toNat ∧
      0xD800 + ((pairChar high low).toNat - 0x10000) / 0x400 = high ∧
      0xDC00 + ((pairChar high low).toNat - 0x10000) % 0x400 = low := by
  simp only [isHighSurrogate, isLowSurrogate, Bool.and_eq_true, decide_eq_true_eq] at isHigh isLow
  have code : (pairChar high low).toNat =
      0x10000 + (high - 0xD800) * 0x400 + (low - 0xDC00) := by
    refine toNat_ofNat (by omega) ?_ ?_
    · simp only [isHighSurrogate, Bool.and_eq_false_iff, decide_eq_false_iff_not]
      omega
    · simp only [isLowSurrogate, Bool.and_eq_false_iff, decide_eq_false_iff_not]
      omega
  rw [code]
  omega

theorem lowSurrogate_split {high : Nat} (h : lowSurrogate high s = .ok (c, rest)) :
    ∃ low text, isLowSurrogate low = true ∧ Quad low text ∧ c = pairChar high low ∧
      s = '\\' :: 'u' :: (text ++ rest) := by
  unfold lowSurrogate at h
  split at h
  · cases h
  · cases h
  · split at h
    · cases h
    · rename_i low behind found
      split at h
      · rename_i isLow
        simp only [Except.ok.injEq, Prod.mk.injEq] at h
        obtain ⟨rfl, rfl⟩ := h
        obtain ⟨text, quad, rfl⟩ := hexQuad_split found
        exact ⟨low, text, isLow, quad, rfl, rfl⟩
      · cases h
  · cases h

theorem unitEscape_split (h : unitEscape care s = .ok (c, rest)) :
    ∃ text, Piece care c ('\\' :: 'u' :: text) ∧ s = text ++ rest := by
  unfold unitEscape at h
  split at h
  · cases h
  · rename_i unit behind found
    obtain ⟨text, quad, rfl⟩ := hexQuad_split found
    split at h
    · cases h
      exact ⟨text, .loose quad, rfl⟩
    · split at h
      · rename_i isHigh
        obtain ⟨low, text', isLow, quad', same, rfl⟩ := lowSurrogate_split h
        obtain ⟨wide, first, second⟩ := same ▸ pairChar_spec isHigh isLow
        rw [← first] at quad
        rw [← second] at quad'
        refine ⟨text ++ '\\' :: 'u' :: text', .pair wide quad quad', ?_⟩
        rw [List.append_assoc]
        rfl
      · rename_i notHigh
        split at h
        · cases h
        · rename_i notLow
          cases h
          have code := toNat_ofNat (Nat.lt_trans quad.lt (by decide)) (by simpa using notHigh)
            (by simpa using notLow)
          rw [← code] at quad
          exact ⟨text, .unit quad, rfl⟩

theorem anyEscape_split (h : anyEscape care s = .ok (c, rest)) :
    ∃ text, Piece care c ('\\' :: text) ∧ s = text ++ rest := by
  unfold anyEscape at h
  split at h
  · cases h
  · obtain ⟨text, piece, rfl⟩ := unitEscape_split h
    exact ⟨_, piece, rfl⟩
  · split at h
    · rename_i found
      cases h
      exact ⟨[_], .short (shortEscape?_mem found), rfl⟩
    · cases h

theorem piece_split {found : Option Char} (h : Json.piece care s = .ok (found, rest)) :
    (found = none ∧ s = '"' :: rest) ∨
      ∃ c text, found = some c ∧ Piece care c text ∧ s = text ++ rest := by
  unfold Json.piece at h
  split at h
  · cases h
  · cases h
    exact .inl ⟨rfl, rfl⟩
  · obtain ⟨⟨c, behind⟩, read, same⟩ := map_eq_ok h
    cases same
    obtain ⟨text, piece, rfl⟩ := anyEscape_split read
    exact .inr ⟨c, _, rfl, piece, rfl⟩
  · rename_i c s unquoted unescaped
    split at h
    · cases h
    · rename_i visible
      cases h
      exact .inr ⟨c, [c], rfl, .plain (Nat.not_lt.1 visible) unquoted unescaped, rfl⟩

theorem textBody_split {cs : List Char} (h : textBody care s = .ok (cs, rest)) :
    ∃ text, Spells care cs text ∧ s = text ++ '"' :: rest := by
  fun_induction textBody care s generalizing cs with
  | case1 => cases h
  | case2 s behind found =>
    cases h
    obtain ⟨-, rfl⟩ | ⟨c, text, impossible, -⟩ := piece_split found
    · exact ⟨[], .nil, rfl⟩
    · cases impossible
  | case3 s c behind found ih =>
    obtain ⟨⟨cs, behind⟩, read, same⟩ := map_eq_ok h
    cases same
    obtain ⟨impossible, -⟩ | ⟨c, text, same, piece, rfl⟩ := piece_split found
    · cases impossible
    · cases same
      obtain ⟨others, spells, rfl⟩ := ih read
      exact ⟨text ++ others, .cons piece spells, by rw [List.append_assoc]⟩

theorem skipText_split (h : skipText s = .ok rest) :
    ∃ cs text, Spells .skip cs text ∧ s = text ++ '"' :: rest := by
  obtain ⟨⟨cs, behind⟩, read, rfl⟩ := map_eq_ok h
  exact ⟨cs, textBody_split read⟩

/-! ### Numbers -/

theorem digits_split {atEnd : Fault} {text : List Char} (h : digits atEnd s = .ok (text, rest)) :
    Digits text ∧ s = text ++ rest := by
  unfold digits at h
  split at h
  · cases h
  · rename_i c s
    split at h
    · rename_i digit
      cases h
      refine ⟨⟨?_, fun d member => List.mem_takeWhile_imp member⟩,
        (List.takeWhile_append_dropWhile).symm⟩
      rw [List.takeWhile_cons_of_pos digit]
      exact List.cons_ne_nil _ _
    · cases h

theorem wholePart_split {atEnd : Fault} {text : List Char}
    (h : wholePart atEnd s = .ok (text, rest)) : Whole text ∧ s = text ++ rest := by
  unfold wholePart at h
  split at h
  · cases h
  · rename_i single
    obtain ⟨digits, same⟩ := digits_split h
    refine ⟨?_, same⟩
    obtain ⟨some, all⟩ := digits
    cases text with
    | nil => exact absurd rfl some
    | cons c text =>
      by_cases zero : c = '0'
      · subst zero
        cases text with
        | nil => exact .zero
        | cons d text => exact absurd h (single d text rest)
      · exact .digits all zero

theorem fractionPart_split {atEnd : Fault} {digits : Option (List Char)}
    (h : fractionPart atEnd s = .ok (digits, rest)) :
    ∃ text, FractionOf digits text ∧ s = text ++ rest := by
  unfold fractionPart at h
  split at h
  · obtain ⟨⟨text, behind⟩, read, same⟩ := map_eq_ok h
    cases same
    obtain ⟨digits, rfl⟩ := digits_split read
    exact ⟨_, .present digits, rfl⟩
  · cases h
    exact ⟨[], .absent, rfl⟩

theorem exponentSign_split (s : List Char) :
    ∃ sign, ((exponentSign s).1, sign) ∈ [(false, []), (false, ['+']), (true, ['-'])] ∧
      s = sign ++ (exponentSign s).2 := by
  unfold exponentSign
  split
  · exact ⟨['-'], by simp, rfl⟩
  · exact ⟨['+'], by simp, rfl⟩
  · exact ⟨[], by simp, rfl⟩

theorem exponentPart_split {atEnd : Fault} {power : Option (Bool × List Char)}
    (h : exponentPart atEnd s = .ok (power, rest)) :
    ∃ text, ExponentOf power text ∧ s = text ++ rest := by
  unfold exponentPart at h
  split at h
  · rename_i c s
    split at h
    · rename_i mark
      obtain ⟨⟨text, behind⟩, read, same⟩ := map_eq_ok h
      cases same
      obtain ⟨digits, behind⟩ := digits_split read
      obtain ⟨sign, signs, split⟩ := exponentSign_split s
      refine ⟨_, .present (by simpa using mark) signs digits, ?_⟩
      rw [List.cons_append, List.append_assoc, ← behind, ← split]
    · cases h
      exact ⟨[], .absent, rfl⟩
  · cases h
    exact ⟨[], .absent, rfl⟩

theorem numberSign_split (s : List Char) :
    ∃ sign, ((numberSign s).1, sign) ∈ [(false, []), (true, ['-'])] ∧
      s = sign ++ (numberSign s).2 := by
  unfold numberSign
  split
  · exact ⟨['-'], by simp, rfl⟩
  · exact ⟨[], by simp, rfl⟩

theorem numberText_split {atEnd : Fault} {number : NumberText}
    (h : numberText atEnd s = .ok (number, rest)) :
    ∃ text, number.Written text ∧ s = text ++ rest := by
  unfold numberText at h
  obtain ⟨⟨whole, s₁⟩, readWhole, h⟩ := bind_eq_ok h
  obtain ⟨⟨digits, s₂⟩, readFraction, h⟩ := bind_eq_ok h
  obtain ⟨⟨power, s₃⟩, readExponent, h⟩ := bind_eq_ok h
  cases h
  obtain ⟨sign, signs, split⟩ := numberSign_split s
  obtain ⟨wholes, rest₁⟩ := wholePart_split readWhole
  obtain ⟨fraction, fractions, rest₂⟩ := fractionPart_split readFraction
  obtain ⟨exponent, exponents, rest₃⟩ := exponentPart_split readExponent
  refine ⟨_, .mk signs wholes fractions exponents, ?_⟩
  simp only [List.append_assoc]
  rw [← rest₃, ← rest₂, ← rest₁, ← split]

/-! ### Skipped values -/

def Bracket.opening : Bracket → Char
  | array => '['
  | object => '\x7b'

theorem derives_enclosed {bracket : Bracket} {inside : List Char}
    (derives : Gap inside ∨ Derives (.items bracket) inside) :
    Derives .value (bracket.opening :: (inside ++ [bracket.closing])) := by
  cases bracket with
  | array => exact derives.elim .emptyArray .array
  | object => exact derives.elim .emptyObject .object

theorem skipStart_split {found : Option Bracket} (h : skipStart s = .ok (found, rest)) :
    (found = none ∧ ∃ text, Derives .value text ∧ s = text ++ rest) ∨
      ∃ bracket : Bracket, found = some bracket ∧ s = bracket.opening :: rest := by
  unfold skipStart at h
  split at h
  · cases h
  · obtain ⟨behind, read, same⟩ := map_eq_ok h
    cases same
    exact .inl ⟨rfl, "null".toList, .word (by simp), congrArg _ (expect_split read)⟩
  · obtain ⟨behind, read, same⟩ := map_eq_ok h
    cases same
    exact .inl ⟨rfl, "true".toList, .word (by simp), congrArg _ (expect_split read)⟩
  · obtain ⟨behind, read, same⟩ := map_eq_ok h
    cases same
    exact .inl ⟨rfl, "false".toList, .word (by simp), congrArg _ (expect_split read)⟩
  · obtain ⟨behind, read, same⟩ := map_eq_ok h
    cases same
    obtain ⟨cs, text, spells, rfl⟩ := skipText_split read
    refine .inl ⟨rfl, _, .text spells, ?_⟩
    rw [List.cons_append, List.append_assoc]
    rfl
  · cases h
    exact .inr ⟨.array, rfl, rfl⟩
  · cases h
    exact .inr ⟨.object, rfl, rfl⟩
  · split at h
    · obtain ⟨⟨number, behind⟩, read, same⟩ := map_eq_ok h
      cases same
      obtain ⟨text, written, same⟩ := numberText_split read
      exact .inl ⟨rfl, text, .number written.numeral, same⟩
    · cases h

theorem skipSpace_token {t : List Char} (h : skipSpace s = t) : ∃ gap, Gap gap ∧ s = gap ++ t :=
  h ▸ skipSpace_split s

theorem skipKey_split (h : skipKey s = .ok rest) :
    ∃ before cs key between, Gap before ∧ Spells .skip cs key ∧ Gap between ∧
      s = before ++ '"' :: (key ++ '"' :: (between ++ ':' :: rest)) := by
  unfold skipKey at h
  split at h
  · cases h
  · rename_i quote
    obtain ⟨before, gap, rfl⟩ := skipSpace_token quote
    obtain ⟨behind, read, ends⟩ := bind_eq_ok h
    obtain ⟨cs, key, spells, rfl⟩ := skipText_split read
    split at ends
    · cases ends
    · rename_i colon
      cases ends
      obtain ⟨between, gap', rfl⟩ := skipSpace_token colon
      exact ⟨before, cs, key, between, gap, spells, gap', rfl⟩
    · cases ends
  · cases h

/-- The text makes an item of the value behind it, with white space around the value. -/
def Bracket.Leads (bracket : Bracket) (ahead : List Char) : Prop :=
  ∀ {before value behind : List Char}, Gap before → Derives .value value → Gap behind →
    Derives (.item bracket) (ahead ++ (before ++ (value ++ behind)))

theorem Bracket.enter_split {bracket : Bracket} (h : bracket.enter s = .ok rest) :
    ∃ ahead, bracket.Leads ahead ∧ s = ahead ++ rest := by
  cases bracket with
  | array =>
    cases h
    refine ⟨[], fun gap value gap' => ?_, rfl⟩
    rw [List.nil_append]
    exact .element gap value gap'
  | object =>
    obtain ⟨before, cs, key, between, gap, spells, gap', rfl⟩ := skipKey_split h
    refine ⟨before ++ '"' :: (key ++ '"' :: (between ++ [':'])), fun gap₂ value gap₃ => ?_, ?_⟩
    · simpa using Derives.member gap spells gap' gap₂ value gap₃
    · simp

theorem Derives.behind_gap {bracket : Bracket} {gap text : List Char} (gaps : Gap gap)
    (items : Derives (.items bracket) text) : Derives (.items bracket) (gap ++ text) := by
  have item {text : List Char} (item : Derives (.item bracket) text) :
      Derives (.item bracket) (gap ++ text) := by
    cases item with
    | element before value behind =>
      rw [← List.append_assoc]
      exact .element (gaps.append before) value behind
    | member before spells between ahead value behind =>
      rw [← List.append_assoc]
      exact .member (gaps.append before) spells between ahead value behind
  cases items with
  | last first => exact .last (item first)
  | more first others =>
    rw [← List.append_assoc]
    exact .more (item first) others

/-- What a text still has to hold so that the open brackets are closed in it. -/
inductive Closes : List Bracket → List Char → Prop
  | nil : Closes [] []
  | last {bracket : Bracket} {brackets : List Bracket} {gap behind : List Char} (gaps : Gap gap)
      (closes : Closes brackets behind) :
    Closes (bracket :: brackets) (gap ++ bracket.closing :: behind)
  | more {bracket : Bracket} {brackets : List Bracket} {gap text behind : List Char}
      (gaps : Gap gap) (items : Derives (.items bracket) text) (closes : Closes brackets behind) :
    Closes (bracket :: brackets) (gap ++ ',' :: (text ++ bracket.closing :: behind))

def Due.Holds : Due → List Bracket → List Char → Prop
  | value, brackets, text => ∃ gap value behind, text = gap ++ (value ++ behind) ∧ Gap gap ∧
    Derives .value value ∧ Closes brackets behind
  | opened bracket, brackets, text => ∃ inside behind, text = inside ++ bracket.closing :: behind ∧
    (Gap inside ∨ Derives (.items bracket) inside) ∧ Closes brackets behind
  | .rest, brackets, text => Closes brackets text

theorem Due.Holds.items {bracket : Bracket} {brackets : List Bracket} {ahead text : List Char}
    (holds : Due.value.Holds (bracket :: brackets) text) (leads : bracket.Leads ahead) :
    ∃ inside behind, ahead ++ text = inside ++ bracket.closing :: behind ∧
      Derives (.items bracket) inside ∧ Closes brackets behind := by
  obtain ⟨gap, value, behind, rfl, gaps, derives, closes⟩ := holds
  cases closes with
  | last gaps' closes =>
    exact ⟨_, _, by simp, .last (leads gaps derives gaps'), closes⟩
  | more gaps' items closes =>
    exact ⟨_, _, by simp, .more (leads gaps derives gaps') items, closes⟩

theorem skipOn_split {due : Due} {brackets : List Bracket} (h : skipOn due brackets s = .ok rest) :
    ∃ text, due.Holds brackets text ∧ s = text ++ rest := by
  fun_induction skipOn due brackets s with
  | case1 => cases h
  | case2 brackets s behind start ih =>
    obtain ⟨text, closes, rfl⟩ := ih h
    obtain ⟨gap, gaps, split⟩ := skipSpace_split s
    obtain ⟨-, value, derives, same⟩ | ⟨_, impossible, -⟩ := skipStart_split start
    · refine ⟨gap ++ (value ++ text), ⟨gap, value, text, rfl, gaps, derives, closes⟩, ?_⟩
      rw [split, same]
      simp
    · cases impossible
  | case3 brackets s bracket behind start ih =>
    obtain ⟨_, ⟨inside, behind, rfl, derives, closes⟩, rfl⟩ := ih h
    obtain ⟨gap, gaps, split⟩ := skipSpace_split s
    obtain ⟨impossible, -⟩ | ⟨bracket, same, opens⟩ := skipStart_split start
    · cases impossible
    · cases same
      refine ⟨_, ⟨gap, _, behind, rfl, gaps, derives_enclosed derives, closes⟩, ?_⟩
      rw [split, opens]
      simp
  | case5 brackets s bracket behind first ih =>
    obtain ⟨text, closes, rfl⟩ := ih h
    obtain ⟨gap, gaps, rfl⟩ := skipSpace_token first
    exact ⟨_, ⟨gap, text, rfl, .inl gaps, closes⟩, by simp⟩
  | case7 brackets s bracket c behind first _ rest' entered ih =>
    obtain ⟨text, holds, rfl⟩ := ih h
    obtain ⟨ahead, leads, same⟩ := Bracket.enter_split entered
    obtain ⟨gap, gaps, rfl⟩ := skipSpace_token first
    obtain ⟨inside, behind, split, items, closes⟩ := holds.items leads
    refine ⟨_, ⟨gap ++ inside, behind, rfl, .inr (items.behind_gap gaps), closes⟩, ?_⟩
    rw [same, ← List.append_assoc ahead, split]
    simp
  | case8 s =>
    cases h
    exact ⟨[], .nil, rfl⟩
  | case11 s bracket brackets behind rest' entered comma ih =>
    obtain ⟨text, holds, rfl⟩ := ih h
    obtain ⟨ahead, leads, rfl⟩ := Bracket.enter_split entered
    obtain ⟨gap, gaps, rfl⟩ := skipSpace_token comma
    obtain ⟨inside, behind, split, items, closes⟩ := holds.items leads
    refine ⟨_, .more gaps items closes, ?_⟩
    rw [← List.append_assoc ahead, split]
    simp
  | case12 s bracket brackets behind closing _ ih =>
    obtain ⟨text, closes, rfl⟩ := ih h
    obtain ⟨gap, gaps, rfl⟩ := skipSpace_token closing
    exact ⟨_, .last gaps closes, by simp⟩
  | case4 | case6 | case9 | case10 | case13 => cases h

theorem skipValue_split (h : skipValue s = .ok rest) :
    ∃ gap text, Gap gap ∧ Derives .value text ∧ s = gap ++ (text ++ rest) := by
  obtain ⟨_, ⟨gap, text, behind, rfl, gaps, derives, closes⟩, rfl⟩ := skipOn_split h
  cases closes
  exact ⟨gap, text, gaps, derives, by simp⟩

end Preconnect.Json
