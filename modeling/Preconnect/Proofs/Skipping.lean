import Preconnect.Json.Found
import Preconnect.Proofs.Scanning

/-!
Passing over what the grammar derives. A value of any depth is passed over to its end, with the
brackets that are open around it left as they were.
-/
namespace Preconnect.Json

variable {gap rest : List Char}

theorem skipOn_scalar {s : List Char} (passed : skipStart (skipSpace s) = .ok (none, rest))
    (brackets : List Bracket) : skipOn .value brackets s = skipOn .rest brackets rest := by
  rw [skipOn]
  split <;> simp_all

theorem skipOn_bracket {s : List Char} {bracket : Bracket}
    (passed : skipStart (skipSpace s) = .ok (some bracket, rest)) (brackets : List Bracket) :
    skipOn .value brackets s = skipOn (.opened bracket) brackets rest := by
  rw [skipOn]
  split <;> simp_all

theorem skipOn_closed {s : List Char} {bracket : Bracket}
    (closed : skipSpace s = bracket.closing :: rest) (brackets : List Bracket) :
    skipOn (.opened bracket) brackets s = skipOn .rest brackets rest := by
  rw [skipOn]
  split <;> simp_all

def skipItem (bracket : Bracket) (brackets : List Bracket) (s : List Char) :
    Except Fault (List Char) :=
  (bracket.enter s).bind (skipOn .value (bracket :: brackets))

theorem skipOn_skipSpace (brackets : List Bracket) (s : List Char) :
    skipOn .value brackets (skipSpace s) = skipOn .value brackets s := by
  rw [skipOn, skipSpace_skipSpace, ← skipOn]

theorem skipItem_skipSpace (bracket : Bracket) (brackets : List Bracket) (s : List Char) :
    skipItem bracket brackets (skipSpace s) = skipItem bracket brackets s := by
  cases bracket with
  | array => exact skipOn_skipSpace _ s
  | object => rw [skipItem, Bracket.enter, skipKey, skipSpace_skipSpace, ← skipKey]; rfl

theorem skipOn_opened {s : List Char} {bracket : Bracket} {c : Char}
    (first : skipSpace s = c :: rest) (more : c ≠ bracket.closing) (brackets : List Bracket) :
    skipOn (.opened bracket) brackets s = skipItem bracket brackets s := by
  rw [← skipItem_skipSpace, first, skipOn, skipItem]
  split
  · simp_all
  · rename_i found
    rw [first] at found
    cases found
    rw [if_neg more]
    cases bracket.enter (c :: rest) <;> rfl

theorem skipOn_comma (bracket : Bracket) (brackets : List Bracket) (s : List Char) :
    skipOn .rest (bracket :: brackets) (',' :: s) = skipItem bracket brackets s := by
  rw [skipOn, skipItem]
  split
  · rename_i found
    cases found
  · rename_i found
    cases found
    rw [if_pos rfl]
    cases bracket.enter s <;> rfl

theorem closing_ne_comma (bracket : Bracket) : bracket.closing ≠ ',' := by
  cases bracket <;> decide

theorem skipSpace_closing (bracket : Bracket) (s : List Char) :
    skipSpace (bracket.closing :: s) = bracket.closing :: s := by
  cases bracket <;> rfl

theorem skipOn_end (bracket : Bracket) (brackets : List Bracket) (s : List Char) :
    skipOn .rest (bracket :: brackets) (bracket.closing :: s) = skipOn .rest brackets s := by
  rw [skipOn]
  split
  · rename_i found
    rw [skipSpace_closing] at found
    cases found
  · rename_i found
    rw [skipSpace_closing] at found
    cases found
    rw [if_neg (closing_ne_comma bracket), if_pos rfl]

theorem skipOn_gap (gaps : Gap gap) (bracket : Bracket) (brackets : List Bracket)
    (s : List Char) :
    skipOn .rest (bracket :: brackets) (gap ++ s) = skipOn .rest (bracket :: brackets) s := by
  rw [skipOn, skipSpace_gap gaps, ← skipOn]

theorem stops_gap (gaps : Gap gap) (stops : Stops rest) : Stops (gap ++ rest) := by
  cases gap with
  | nil => exact stops
  | cons c gap =>
    have space := gaps c List.mem_cons_self
    simp only [List.mem_cons, List.not_mem_nil, or_false] at space
    rcases space with rfl | rfl | rfl | rfl <;>
      exact stops_cons (by decide) (by decide) (by decide) (by decide) _

theorem stops_closing (bracket : Bracket) (s : List Char) : Stops (bracket.closing :: s) := by
  cases bracket <;> exact stops_cons (by decide) (by decide) (by decide) (by decide) s

theorem stops_comma (s : List Char) : Stops (',' :: s) :=
  stops_cons (by decide) (by decide) (by decide) (by decide) s

theorem Numeral.head {text : List Char} (numeral : Numeral text) :
    ∃ c s, text = c :: s ∧ (c = '-' ∨ c.isDigit = true) := by
  obtain ⟨signs, wholes, -, -⟩ := numeral
  simp only [List.mem_cons, List.not_mem_nil, or_false] at signs
  rcases signs with rfl | rfl
  · obtain ⟨c, s, rfl, digit⟩ := wholes.head
    exact ⟨c, _, rfl, .inr digit⟩
  · exact ⟨_, _, rfl, .inl rfl⟩

theorem skipStart_number {c : Char} (starts : c = '-' ∨ c.isDigit = true) (s : List Char) :
    skipStart (c :: s) =
      (numberText .malformed (c :: s)).map fun (_, rest) => (none, rest) := by
  unfold skipStart
  split
  case h_8 same =>
    cases same
    exact if_pos starts
  all_goals simp_all

theorem found_number {c : Char} (starts : c = '-' ∨ c.isDigit = true) (s : List Char) :
    found (c :: s) = (number (c :: s)).map fun (n, rest) => (.number n, rest) := by
  unfold found
  split
  case h_8 same =>
    cases same
    exact if_pos starts
  all_goals simp_all

theorem ne_of_starts {c d : Char} (starts : c = '-' ∨ c.isDigit = true) (other : d ≠ '-')
    (undigit : d.isDigit = false) : c ≠ d := by
  rintro rfl
  rcases starts with minus | digit
  · exact other minus
  · cases digit.symm.trans undigit

theorem isSpace_of_starts {c : Char} (starts : c = '-' ∨ c.isDigit = true) :
    isSpace c = false := by
  have space := ne_of_starts (d := ' ') starts (by decide) rfl
  have newline := ne_of_starts (d := '\n') starts (by decide) rfl
  have tab := ne_of_starts (d := '\t') starts (by decide) rfl
  have ret := ne_of_starts (d := '\r') starts (by decide) rfl
  simp [isSpace, space, newline, tab, ret]

theorem Derives.head {text : List Char} (value : Derives .value text) :
    ∃ c s, text = c :: s ∧ isSpace c = false ∧ c ≠ ']' := by
  cases value with
  | @word word words =>
    simp only [List.mem_cons, List.not_mem_nil, or_false] at words
    rcases words with rfl | rfl | rfl <;> exact ⟨_, _, rfl, by decide, by decide⟩
  | number numeral =>
    obtain ⟨c, s, rfl, starts⟩ := numeral.head
    exact ⟨c, s, rfl, isSpace_of_starts starts, ne_of_starts starts (by decide) rfl⟩
  | text | emptyArray | array | emptyObject | object => exact ⟨_, _, rfl, by decide, by decide⟩

theorem Derives.start {text : List Char} (value : Derives .value text) (rest : List Char) :
    skipSpace (text ++ rest) = text ++ rest := by
  obtain ⟨c, s, rfl, token, -⟩ := value.head
  exact skipSpace_of_token token _

theorem Derives.head_item {bracket : Bracket} {text : List Char}
    (item : Derives (.item bracket) text) (rest : List Char) :
    ∃ c s, skipSpace (text ++ rest) = c :: s ∧ c ≠ bracket.closing := by
  cases item with
  | element gap value gap₁ =>
    obtain ⟨c, s, rfl, token, other⟩ := value.head
    rw [List.append_assoc, skipSpace_gap gap]
    exact ⟨c, _, skipSpace_of_token token _, other⟩
  | member gap spells gap₁ gap₂ value gap₃ =>
    rw [List.append_assoc, skipSpace_gap gap]
    exact ⟨'"', _, rfl, by decide⟩

theorem Derives.head_items {bracket : Bracket} {text : List Char}
    (items : Derives (.items bracket) text) (rest : List Char) :
    ∃ c s, skipSpace (text ++ rest) = c :: s ∧ c ≠ bracket.closing := by
  cases items with
  | last item => exact item.head_item rest
  | more item items =>
    rw [List.append_assoc]
    exact item.head_item _

def Phrase.Passes : Phrase → List Char → Prop
  | value, text => ∀ rest brackets, Stops rest →
    skipOn .value brackets (text ++ rest) = skipOn .rest brackets rest
  | item bracket, text => ∀ rest brackets, Stops rest →
    skipItem bracket brackets (text ++ rest) = skipOn .rest (bracket :: brackets) rest
  | items bracket, text => ∀ rest brackets,
    skipItem bracket brackets (text ++ bracket.closing :: rest) = skipOn .rest brackets rest

theorem skipOn_value_gap (gaps : Gap gap) (brackets : List Bracket) (s : List Char) :
    skipOn .value brackets (gap ++ s) = skipOn .value brackets s := by
  rw [← skipOn_skipSpace, skipSpace_gap gaps, skipOn_skipSpace]

theorem Phrase.Passes.inside {ahead text behind : List Char} (passes : Phrase.value.Passes text)
    (gap : Gap ahead) (gap₁ : Gap behind) (stops : Stops rest) (bracket : Bracket)
    (brackets : List Bracket) :
    skipOn .value (bracket :: brackets) (ahead ++ (text ++ (behind ++ rest))) =
      skipOn .rest (bracket :: brackets) rest := by
  rw [skipOn_value_gap gap, passes _ _ (stops_gap gap₁ stops), skipOn_gap gap₁]

theorem skipKey_read {before cs key between : List Char} (gap : Gap before)
    (spells : Spells .skip cs key) (gap₁ : Gap between) (rest : List Char) :
    skipKey (before ++ '"' :: (key ++ '"' :: (between ++ ':' :: rest))) = .ok rest := by
  have quote : skipSpace ('"' :: (key ++ '"' :: (between ++ ':' :: rest))) =
      '"' :: (key ++ '"' :: (between ++ ':' :: rest)) := rfl
  have colon : skipSpace (':' :: rest) = ':' :: rest := rfl
  simp only [skipKey, skipSpace_gap gap, quote, spells.skip, ok_bind, skipSpace_gap gap₁, colon]

section
variable (bracket : Bracket) {c : Char}
  (opens : ∀ s, skipStart (skipSpace (c :: s)) = .ok (some bracket, s))
include opens

theorem passes_empty (gaps : Gap gap) :
    Phrase.value.Passes (c :: (gap ++ [bracket.closing])) := by
  intro rest brackets stops
  have closed : skipSpace (gap ++ (bracket.closing :: rest)) = bracket.closing :: rest := by
    rw [skipSpace_gap gaps, skipSpace_closing]
  rw [List.cons_append, List.append_assoc, List.singleton_append, skipOn_bracket (opens _),
    skipOn_closed closed]

theorem passes_full {text : List Char} (items : Derives (.items bracket) text)
    (passes : (Phrase.items bracket).Passes text) :
    Phrase.value.Passes (c :: (text ++ [bracket.closing])) := by
  intro rest brackets stops
  obtain ⟨d, s, first, more⟩ := items.head_items (bracket.closing :: rest)
  rw [List.cons_append, List.append_assoc, List.singleton_append, skipOn_bracket (opens _),
    skipOn_opened first more]
  exact passes rest brackets

end

/-- What is derived is passed over. -/
theorem Derives.passes {phrase : Phrase} {text : List Char} (derives : Derives phrase text) :
    phrase.Passes text := by
  induction derives with
  | word words =>
    intro rest brackets stops
    simp only [List.mem_cons, List.not_mem_nil, or_false] at words
    rcases words with rfl | rfl | rfl <;> exact skipOn_scalar rfl brackets
  | @number text numeral =>
    intro rest brackets stops
    obtain ⟨c, s, rfl, starts⟩ := numeral.head
    obtain ⟨number, written⟩ := numeral.written
    have reads := written.read stops .malformed
    apply skipOn_scalar
    rw [List.cons_append] at reads ⊢
    rw [skipSpace_of_token (isSpace_of_starts starts), skipStart_number starts, reads]
    rfl
  | text spells =>
    intro rest brackets stops
    apply skipOn_scalar
    rw [List.cons_append, List.append_assoc]
    exact congrArg (Except.map _) (spells.skip rest)
  | emptyArray gaps => exact passes_empty .array (fun _ => rfl) gaps
  | array items ih => exact passes_full .array (fun _ => rfl) items ih
  | emptyObject gaps => exact passes_empty .object (fun _ => rfl) gaps
  | object items ih => exact passes_full .object (fun _ => rfl) items ih
  | element gap value gap₁ ih =>
    intro rest brackets stops
    simp only [List.append_assoc]
    exact ih.inside gap gap₁ stops .array brackets
  | member gap spells gap₁ gap₂ value gap₃ ih =>
    intro rest brackets stops
    simp only [List.append_assoc, List.cons_append]
    rw [skipItem, Bracket.enter, skipKey_read gap spells gap₁]
    exact ih.inside gap₂ gap₃ stops .object brackets
  | @last bracket text item ih =>
    intro rest brackets
    rw [ih _ brackets (stops_closing bracket rest), skipOn_end]
  | @more bracket text others item items ih ih' =>
    intro rest brackets
    rw [List.append_assoc, List.cons_append, ih _ brackets (stops_comma _), skipOn_comma]
    exact ih' rest brackets

theorem Derives.skip {text : List Char} (value : Derives .value text) (gaps : Gap gap)
    (stops : Stops rest) : skipValue (gap ++ (text ++ rest)) = .ok rest := by
  rw [skipValue, skipOn_value_gap gaps, value.passes rest [] stops, skipOn]

end Preconnect.Json
