import Preconnect.Proofs.Digits

/-!
What a value is to a reader that comes upon it. Every well-formed value shows something: its kind if
it is in brackets, what it means if it is a scalar, and nothing if a scalar has no meaning.
-/
namespace Preconnect.Json

variable {rest : List Char}

/-- What a text shows. A number that is too large to be held shows nothing, and neither does a
string with half of a surrogate pair, which no characters are spelled by. -/
inductive Shows : Option Found → List Char → Prop
  | null : Shows (some .null) "null".toList
  | bool (value : Bool) :
    Shows (some (.bool value)) (if value then "true".toList else "false".toList)
  | number {number : NumberText} {text : List Char} (written : number.Written text) :
    Shows (number.value?.map .number) text
  | text {cs text : List Char} (spells : Spells .read cs text) :
    Shows (some (.text (String.ofList cs))) ('"' :: (text ++ ['"']))
  | garbled {cs text : List Char} (spells : Spells .skip cs text)
      (unreadable : ∀ cs, ¬ Spells .read cs text) :
    Shows none ('"' :: (text ++ ['"']))
  | sequence {text : List Char} (value : Derives .value ('[' :: text)) :
    Shows (some .sequence) ('[' :: text)
  | map {text : List Char} (value : Derives .value ('\x7b' :: text)) :
    Shows (some .map) ('\x7b' :: text)

theorem Spells.append {care : Care} {cs cs' text text' : List Char} (spells : Spells care cs text)
    (others : Spells care cs' text') : Spells care (cs ++ cs') (text ++ text') := by
  induction spells with
  | nil => exact others
  | cons first rest ih =>
    rw [List.append_assoc]
    exact .cons first ih

theorem Piece.skipped {c : Char} {text : List Char} (piece : Piece .read c text) :
    ∃ cs, Spells .skip cs text := by
  have one {c : Char} {text : List Char} (piece : Piece .skip c text) : Spells .skip [c] text := by
    simpa using Spells.cons piece .nil
  cases piece with
  | plain visible unquoted unescaped => exact ⟨_, one (.plain visible unquoted unescaped)⟩
  | short escape => exact ⟨_, one (.short escape)⟩
  | unit quad => exact ⟨_, one (.loose quad)⟩
  | pair wide first second => exact ⟨_, (one (.loose first)).append (one (.loose second))⟩

theorem Spells.skipped {cs text : List Char} (spells : Spells .read cs text) :
    ∃ cs, Spells .skip cs text := by
  induction spells with
  | nil => exact ⟨[], .nil⟩
  | cons first rest ih =>
    obtain ⟨_, first⟩ := first.skipped
    obtain ⟨_, others⟩ := ih
    exact ⟨_, first.append others⟩

theorem Shows.derives {found? : Option Found} {text : List Char} (shows : Shows found? text) :
    Derives .value text := by
  cases shows with
  | null => exact .word (by simp)
  | bool value => cases value <;> exact .word (by simp)
  | number written => exact .number written.numeral
  | text spells =>
    obtain ⟨_, spells⟩ := spells.skipped
    exact .text spells
  | garbled spells => exact .text spells
  | sequence value | map value => exact value

theorem Derives.shows {text : List Char} (value : Derives .value text) :
    ∃ found?, Shows found? text := by
  cases value with
  | word words =>
    simp only [List.mem_cons, List.not_mem_nil, or_false] at words
    rcases words with rfl | rfl | rfl
    · exact ⟨_, .null⟩
    · exact ⟨_, .bool true⟩
    · exact ⟨_, .bool false⟩
  | number numeral =>
    obtain ⟨number, written⟩ := numeral.written
    exact ⟨_, .number written⟩
  | @text cs text spells =>
    by_cases readable : ∃ cs, Spells .read cs text
    · obtain ⟨cs, reads⟩ := readable
      exact ⟨_, .text reads⟩
    · exact ⟨_, .garbled spells fun cs reads => readable ⟨cs, reads⟩⟩
  | emptyArray gaps => exact ⟨_, .sequence (.emptyArray gaps)⟩
  | array elements => exact ⟨_, .sequence (.array elements)⟩
  | emptyObject gaps => exact ⟨_, .map (.emptyObject gaps)⟩
  | object members => exact ⟨_, .map (.object members)⟩

inductive Element : Option Found → List Char → Prop
  | mk {shown : Option Found} {before text behind : List Char} (gap : Gap before)
      (shows : Shows shown text) (gap₁ : Gap behind) :
    Element shown (before ++ (text ++ behind))

theorem Element.derives {shown : Option Found} {text : List Char} (element : Element shown text) :
    Derives (.item .array) text := by
  obtain ⟨gap, shows, gap₁⟩ := element
  exact .element gap shows.derives gap₁

theorem element_some {text : List Char} (item : Derives (.item .array) text) :
    ∃ shown, Element shown text := by
  cases item with
  | element gap value gap₁ =>
    obtain ⟨shown, shows⟩ := value.shows
    exact ⟨shown, .mk gap shows gap₁⟩

def literal (n : Int) : List Char :=
  (if n < 0 then ['-'] else []) ++ Nat.toDigits 10 n.natAbs

theorem shows_literal (n : Int) (low : -0x8000000000000000 ≤ n) (high : n < 0x10000000000000000) :
    Shows (some (.number (.integer n))) (literal n) := by
  have signs : (decide (n < 0), if n < 0 then ['-'] else []) ∈ [(false, []), (true, ['-'])] := by
    by_cases negative : n < 0 <;> simp [negative]
  have value : (⟨decide (n < 0), Nat.toDigits 10 n.natAbs, none, none⟩ : NumberText).value? =
      some (.integer n) := by
    have size : UInt64.size = 0x10000000000000000 := rfl
    by_cases negative : n < 0
    · have above : 0 < n.natAbs := by omega
      have below : n.natAbs ≤ UInt64.size / 2 := by omega
      have same : -(n.natAbs : Int) = n := by omega
      simp only [NumberText.value?, decimalValue_toDigits, negative, above, below, same,
        Option.isNone_none, decide_true, Bool.and_true, Bool.not_true, Bool.and_false,
        Bool.false_and, Bool.false_eq_true, if_false, if_true]
    · have below : n.natAbs < UInt64.size := by omega
      have same : (n.natAbs : Int) = n := by omega
      simp only [NumberText.value?, decimalValue_toDigits, negative, below, same,
        Option.isNone_none, decide_true, decide_false, Bool.and_true, Bool.not_false, if_true]
  have shows := Shows.number (.mk signs (whole_toDigits n.natAbs) .absent .absent)
  rw [value] at shows
  simpa [literal] using shows

/-! ### Strings that no characters are spelled by -/

theorem textBody_of_piece {care : Care} {s : List Char} {c : Char}
    (first : Json.piece care s = .ok (some c, rest)) :
    textBody care s = (textBody care rest).map fun (cs, rest) => (c :: cs, rest) := by
  rw [textBody, first]

theorem textBody_of_fault {care : Care} {s : List Char} {fault : Fault}
    (first : Json.piece care s = .error fault) : textBody care s = .error fault := by
  rw [textBody, first]

theorem piece_of_low {unit : Nat} {text : List Char} (quad : Quad unit text)
    (low : isLowSurrogate unit = true) (rest : List Char) :
    Json.piece .read ('\\' :: 'u' :: (text ++ rest)) = .error .malformed := by
  have notHigh : isHighSurrogate unit = false := by
    simp only [isHighSurrogate, isLowSurrogate, Bool.and_eq_true, Bool.and_eq_false_iff,
      decide_eq_true_eq, decide_eq_false_iff_not] at low ⊢
    omega
  rw [piece_unit]
  simp only [unitEscape, quad.read, notHigh, low, Bool.false_eq_true, if_false, if_true]
  rfl

theorem piece_of_high {unit : Nat} {text : List Char} (quad : Quad unit text)
    (high : isHighSurrogate unit = true) {fault : Fault}
    (unpaired : lowSurrogate unit rest = .error fault) :
    Json.piece .read ('\\' :: 'u' :: (text ++ rest)) = .error fault := by
  rw [piece_unit]
  simp only [unitEscape, quad.read, high, if_true, unpaired]
  rfl

theorem Piece.low_or {c : Char} {text : List Char} (piece : Piece .skip c text) (high : Nat)
    (s : List Char) :
    (∃ low quad, text = '\\' :: 'u' :: quad ∧ Quad low quad ∧ isLowSurrogate low = true) ∨
      lowSurrogate high (text ++ s) = .error .malformed := by
  cases piece with
  | plain visible unquoted unescaped =>
    refine .inr ?_
    rw [List.singleton_append]
    unfold lowSurrogate
    split <;> simp_all
  | @short _ letter c escape =>
    have other : letter ≠ 'u' := by
      rintro rfl
      revert escape
      simp [shortEscapes]
    refine .inr ?_
    rw [List.cons_append, List.singleton_append]
    unfold lowSurrogate
    split <;> simp_all
  | @loose low text quad =>
    cases isLow : isLowSurrogate low with
    | true => exact .inl ⟨low, text, rfl, quad, isLow⟩
    | false =>
      refine .inr ?_
      simp [lowSurrogate, quad.read, isLow]

theorem piece_of_halves {high low : Nat} {first second : List Char} (quad : Quad high first)
    (quad' : Quad low second) (isHigh : isHighSurrogate high = true)
    (isLow : isLowSurrogate low = true) :
    ∃ c, Piece .read c ('\\' :: 'u' :: first ++ '\\' :: 'u' :: second) := by
  have spec := pairChar_spec isHigh isLow
  generalize pairChar high low = c at spec
  obtain ⟨wide, same, same'⟩ := spec
  rw [← same] at quad
  rw [← same'] at quad'
  exact ⟨c, .pair wide quad quad'⟩

def Decided (text rest : List Char) : Prop :=
  (∃ cs, Spells .read cs text) ∨ textBody .read (text ++ '"' :: rest) = .error .malformed

theorem Decided.cons {c : Char} {piece text : List Char} (decided : Decided text rest)
    (first : Piece .read c piece) : Decided (piece ++ text) rest := by
  rcases decided with ⟨cs, spells⟩ | fails
  · exact .inl ⟨_, .cons first spells⟩
  · refine .inr ?_
    rw [List.append_assoc, textBody_of_piece (first.read _), fails]
    rfl

theorem decided_of_fault {piece text : List Char}
    (first : Json.piece .read (piece ++ (text ++ '"' :: rest)) = .error .malformed) :
    Decided (piece ++ text) rest := by
  refine .inr ?_
  rw [List.append_assoc]
  exact textBody_of_fault first

theorem Spells.decided {cs text : List Char} (spells : Spells .skip cs text) (rest : List Char) :
    Decided text rest := by
  induction size : cs.length using Nat.strongRecOn generalizing cs text with
  | ind n ih =>
    subst size
    cases spells with
    | nil => exact .inl ⟨[], .nil⟩
    | @cons c cs piece text first others =>
      have decided : Decided text rest := ih cs.length (by simp) others rfl
      cases first with
      | plain visible unquoted unescaped => exact decided.cons (.plain visible unquoted unescaped)
      | short escape => exact decided.cons (.short escape)
      | @loose unit quad digits =>
        cases high : isHighSurrogate unit with
        | false =>
          cases low : isLowSurrogate unit with
          | true => exact decided_of_fault (piece_of_low digits low _)
          | false =>
            have code := toNat_ofNat (Nat.lt_trans digits.lt (by decide)) high low
            rw [← code] at digits
            exact decided.cons (.unit digits)
        | true =>
          -- The second half may be in the next piece, so the induction skips one.
          cases others with
          | nil => exact decided_of_fault (piece_of_high digits high rfl)
          | @cons d ds piece text second others =>
            rcases second.low_or unit (text ++ '"' :: rest) with
              ⟨low, quad', rfl, digits', isLow⟩ | fails
            · obtain ⟨_, both⟩ := piece_of_halves digits digits' high isLow
              have shorter : ds.length < ds.length + 1 + 1 := by omega
              have decided : Decided text rest := ih ds.length shorter others rfl
              rw [← List.append_assoc]
              exact decided.cons both
            · rw [← List.append_assoc] at fails
              exact decided_of_fault (piece_of_high digits high fails)

/-! ### Coming upon a value -/

def Found.opens : Found → Bool
  | sequence | map => true
  | null | bool _ | number _ | text _ => false

theorem NumberText.Written.found {number : NumberText} {text : List Char}
    (written : number.Written text) (stops : Stops rest) :
    Json.found (text ++ rest) = match number.value? with
      | some value => .ok (.number value, rest)
      | none => .error .malformed := by
  obtain ⟨c, s, same, starts⟩ := written.numeral.head
  have reads : Json.number (text ++ rest) = match number.value? with
      | some value => .ok (value, rest)
      | none => .error .malformed := by
    rw [Json.number, written.read stops, ok_bind]
    rfl
  rw [same, List.cons_append] at reads ⊢
  rw [found_number starts, reads]
  cases number.value? <;> rfl

theorem found_quote (s : List Char) :
    Json.found ('"' :: s) =
      (textBody .read s).map fun (cs, rest) => (.text (String.ofList cs), rest) := rfl

theorem Shows.unreadable {text : List Char} (shows : Shows none text) (stops : Stops rest) :
    Json.found (text ++ rest) = .error .malformed := by
  generalize nothing : (none : Option Found) = found? at shows
  cases shows with
  | number written =>
    rw [written.found stops]
    cases found : NumberText.value? _ with
    | none => rfl
    | some value =>
      rw [found] at nothing
      cases nothing
  | garbled spells unreadable =>
    obtain ⟨cs, reads⟩ | fails := spells.decided rest
    · exact absurd reads (unreadable cs)
    · rw [List.cons_append, List.append_assoc, List.singleton_append, found_quote, fails]
      rfl
  | null | bool | text | sequence | map => cases nothing

/-- What a value shows is what a reader comes upon. -/
theorem Shows.found {value : Found} {text : List Char} (shows : Shows (some value) text)
    (stops : Stops rest) :
    ∃ behind, Json.found (text ++ rest) = .ok (value, behind) ∧
      (value.opens = false → behind = rest) := by
  generalize something : some value = found? at shows
  cases shows with
  | null =>
    cases something
    exact ⟨rest, rfl, fun _ => rfl⟩
  | bool flag =>
    cases something
    cases flag <;> exact ⟨rest, rfl, fun _ => rfl⟩
  | @number number text written =>
    obtain ⟨n, held, rfl⟩ := Option.map_eq_some_iff.1 something.symm
    refine ⟨rest, ?_, fun _ => rfl⟩
    rw [written.found stops, held]
  | text spells =>
    cases something
    refine ⟨rest, ?_, fun _ => rfl⟩
    rw [List.cons_append, List.append_assoc, List.singleton_append, found_quote, spells.read]
    rfl
  | garbled => cases something
  | sequence | map =>
    cases something
    exact ⟨_, rfl, fun scalar => by cases scalar⟩

/-- And what a reader comes upon is what a value shows, up to where it has read. -/
theorem found_split {s : List Char} {value : Found} (h : Json.found s = .ok (value, rest))
    (scalar : value.opens = false) :
    ∃ text, Shows (some value) text ∧ s = text ++ rest := by
  unfold Json.found at h
  split at h
  · cases h
  · obtain ⟨behind, read, same⟩ := map_eq_ok h
    cases same
    exact ⟨_, .null, congrArg _ (expect_split read)⟩
  · obtain ⟨behind, read, same⟩ := map_eq_ok h
    cases same
    exact ⟨_, .bool true, congrArg _ (expect_split read)⟩
  · obtain ⟨behind, read, same⟩ := map_eq_ok h
    cases same
    exact ⟨_, .bool false, congrArg _ (expect_split read)⟩
  · obtain ⟨⟨cs, behind⟩, read, same⟩ := map_eq_ok h
    cases same
    obtain ⟨text, spells, rfl⟩ := textBody_split read
    refine ⟨_, .text spells, ?_⟩
    rw [List.cons_append, List.append_assoc]
    rfl
  · cases h
    cases scalar
  · cases h
    cases scalar
  · split at h
    · obtain ⟨⟨n, behind⟩, read, same⟩ := map_eq_ok h
      cases same
      obtain ⟨⟨number, behind⟩, read, h⟩ := bind_eq_ok read
      obtain ⟨text, written, split⟩ := numberText_split read
      dsimp only at h
      split at h
      · rename_i held
        cases h
        have shows := Shows.number written
        rw [held] at shows
        exact ⟨text, shows, split⟩
      · cases h
    · cases h

end Preconnect.Json
