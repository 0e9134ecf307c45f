import Preconnect.Proofs.Forms

/-!
From the reader of requests back to the grammar. What a reader takes for a field is one of the texts
that its value can have, and what it takes for members or elements is a row of those.
-/
namespace Preconnect.Request

open Json (Found Gap Row Shows Spells found_split skipSpace_split skipSpace_token)

inductive Placed : Setting → List Char → Prop
  | mk {setting : Setting} {before text behind : List Char} (gap : Gap before)
      (written : setting.Written text) (gap₁ : Gap behind) :
    Placed setting (before ++ (text ++ behind))

/-! ### Values of fields -/

theorem toNat_of_count? {n : Int} {count : UInt32} (counts : count? n = some count) :
    (count.toNat : Int) = n := by
  unfold count? at counts
  split at counts
  · rename_i fits
    have small : n.toNat < UInt32.size := by
      have size : UInt32.size = 4294967296 := rfl
      omega
    cases counts
    rw [UInt32.toNat_ofNat_of_lt' small, Int.toNat_of_nonneg fits.1]
  · cases counts

theorem text_of_count {number : Json.NumberText} {text : List Char} {n : Int} {count : UInt32}
    (written : number.Written text) (value : number.value? = some (.integer n))
    (counts : count? n = some count) : text = Nat.toDigits 10 count.toNat := by
  have counted := toNat_of_count? counts
  obtain @⟨negative, sign, whole, digits, fraction, power, exponent, signs, wholes, fractions,
    exponents⟩ := written
  unfold Json.NumberText.value? at value
  dsimp only at value
  split at value
  · rename_i integer
    simp only [Bool.and_eq_true, Option.isNone_iff_eq_none, Bool.not_eq_true'] at integer
    obtain ⟨⟨⟨rfl, rfl⟩, rfl⟩, -⟩ := integer
    cases fractions
    cases exponents
    simp only [Option.some.injEq, Json.Number.integer.injEq] at value
    have unsigned : sign = [] := by simpa using signs
    have same : count.toNat = Json.decimalValue whole := by omega
    rw [same, Json.toDigits_decimalValue wholes, unsigned]
    simp
  · split at value
    · rename_i integer
      simp only [Bool.and_eq_true, decide_eq_true_eq, Option.some.injEq,
        Json.Number.integer.injEq] at integer value
      omega
    · obtain ⟨magnitude, -, impossible⟩ := Option.map_eq_some_iff.1 value
      cases impossible

theorem count?_toNat (count : UInt32) : count? count.toNat = some count := by
  have below := count.toNat_lt
  rw [count?, if_pos (by omega), Int.toNat_natCast, UInt32.ofNat_toNat]

/-- The texts that a setting can have are those that show a value which the field takes. -/
theorem written_iff {setting : Setting} {text : List Char} :
    setting.Written text ↔
      ∃ found, Shows (some found) text ∧ setting.field.setting? found = some setting := by
  constructor
  · intro written
    cases written with
    | target count =>
      have takes := congrArg (Option.map Setting.target) (count?_toNat count)
      exact ⟨_, Setting.shows_count count, takes⟩
    | workers count =>
      have takes := congrArg (Option.map Setting.workers) (count?_toNat count)
      exact ⟨_, Setting.shows_count count, takes⟩
    | flag value => exact ⟨.bool value, .bool value, rfl⟩
    | unnamed => exact ⟨.null, .null, rfl⟩
    | named spells => exact ⟨_, .text spells, by simp [Setting.field, Field.setting?]⟩
  · rintro ⟨found, shows, takes⟩
    generalize something : some found = found? at shows
    cases shows with
    | null =>
      cases something
      cases setting <;> cases takes
      exact .unnamed
    | bool value =>
      cases something
      cases setting <;> cases takes
      exact .flag value
    | number written =>
      obtain ⟨value, held, rfl⟩ := Option.map_eq_some_iff.1 something.symm
      cases value with
      | integer n =>
        cases setting with
        | target count =>
          obtain ⟨_, counts, same⟩ := Option.map_eq_some_iff.1 takes
          cases same
          rw [text_of_count written held counts]
          exact .target count
        | workers count =>
          obtain ⟨_, counts, same⟩ := Option.map_eq_some_iff.1 takes
          cases same
          rw [text_of_count written held counts]
          exact .workers count
        | failFast | poolName => cases takes
      | binary => cases setting <;> cases takes
    | text spells =>
      cases something
      cases setting <;> cases takes
      exact .named (by simpa using spells)
    | garbled => cases something
    | sequence | map =>
      cases something
      cases setting <;> cases takes

/-! ### Readers -/

section
variable {draft draft' : Draft} {s rest : List Char}

theorem ofValues_eq_ok {α : Type} {x : Except Rejection α} {a : α} (h : ofValues x = .ok a) :
    x = .ok a := by
  cases x with
  | error => cases h
  | ok b =>
    cases h
    rfl

theorem readField_split {field : Field} (h : readField draft field s = .ok (draft', rest)) :
    ∃ setting gap text, setting.field = field ∧ Gap gap ∧ setting.Written text ∧
      s = gap ++ (text ++ rest) ∧ draft' = draft.set setting := by
  obtain ⟨⟨found, behind⟩, reads, h⟩ := bind_eq_ok h
  obtain ⟨_, puts, same⟩ := bind_eq_ok h
  cases same
  have puts := ofValues_eq_ok puts
  rw [Draft.put_eq] at puts
  cases takes : field.setting? found with
  | none =>
    rw [takes] at puts
    cases puts
  | some setting =>
    rw [takes] at puts
    cases puts
    have scalar : found.opens = false := by
      cases opens : found.opens with
      | false => rfl
      | true => cases (setting?_of_opens opens field).symm.trans takes
    obtain ⟨gap, gaps, split⟩ := skipSpace_split s
    obtain ⟨text, shows, same⟩ := found_split (ofText_eq_ok reads) scalar
    cases Field.field_of_setting? takes
    exact ⟨setting, gap, text, rfl, gaps, written_iff.2 ⟨found, shows, takes⟩, same ▸ split, rfl⟩

theorem skipColon_split (h : skipColon s = .ok rest) :
    ∃ gap, Gap gap ∧ s = gap ++ ':' :: rest := by
  unfold skipColon at h
  split at h
  · cases h
  · rename_i colon
    cases h
    exact skipSpace_token colon
  · cases h

theorem readKey_split {key : String} (h : readKey s = .ok (key, rest)) :
    ∃ name, Spells .read key.toList name ∧ s = '"' :: (name ++ '"' :: rest) := by
  unfold readKey at h
  split at h
  · cases h
  · obtain ⟨⟨cs, behind⟩, reads, same⟩ := Json.map_eq_ok h
    cases same
    obtain ⟨name, spells, rfl⟩ := Json.textBody_split reads
    exact ⟨name, by simpa using spells, rfl⟩
  · cases h

inductive Ahead : Bool → List Char → Prop
  | first : Ahead true []
  | next {gap : List Char} (gaps : Gap gap) : Ahead false (gap ++ [','])

theorem nextKey_split {first : Bool} {next : Option String}
    (h : nextKey first s = .ok (next, rest)) :
    (next = none ∧ ∃ gap, Gap gap ∧ s = gap ++ '\x7d' :: rest) ∨
      ∃ key ahead before name, next = some key ∧ Ahead first ahead ∧ Gap before ∧
        Spells .read key.toList name ∧ s = ahead ++ (before ++ '"' :: (name ++ '"' :: rest)) := by
  unfold nextKey at h
  split at h
  · cases h
  · rename_i c behind starts
    obtain ⟨gap, gaps, split⟩ := skipSpace_token starts
    split at h
    · rename_i closing
      cases h
      exact .inl ⟨rfl, gap, gaps, closing ▸ split⟩
    · split at h
      · rename_i isFirst
        obtain ⟨⟨key, behind⟩, reads, same⟩ := Json.map_eq_ok h
        cases same
        cases isFirst
        obtain ⟨name, spells, same⟩ := readKey_split reads
        exact .inr ⟨key, [], gap, name, rfl, .first, gaps, spells, same ▸ split⟩
      · rename_i notFirst
        split at h
        · rename_i isComma
          obtain ⟨⟨key, behind⟩, reads, same⟩ := Json.map_eq_ok h
          cases same
          cases eq_false_of_ne_true notFirst
          obtain ⟨name, spells, same⟩ := readKey_split reads
          obtain ⟨before, gap', rfl⟩ := skipSpace_token same
          exact .inr ⟨key, _, before, name, rfl, .next gaps, gap', spells, by simp [split, isComma]⟩
        · cases h

theorem key_of_ofKey? {key : String} {field : Field} (known : Field.ofKey? key = some field) :
    field.key = key := by
  have same := List.find?_some known
  exact eq_of_beq same

theorem unknown_of_ofKey? {key : String} (unknown : Field.ofKey? key = none) : key ∉ keys := by
  intro known
  have other := List.find?_eq_none.1 unknown
  simp only [keys, List.mem_cons, List.not_mem_nil, or_false] at known
  rcases known with rfl | rfl | rfl | rfl
  · exact other .target (by decide) rfl
  · exact other .workers (by decide) rfl
  · exact other .failFast (by decide) rfl
  · exact other .poolName (by decide) rfl

theorem readMember_split {key : String} {earlier : List Setting} (filled : draft.Filled earlier)
    (h : readMember draft key s = .ok (draft', rest)) :
    ∃ settings between ahead text, Gap between ∧ Gap ahead ∧ Sets key text settings ∧
      s = between ++ ':' :: (ahead ++ (text ++ rest)) ∧ draft'.Filled (earlier ++ settings) := by
  unfold readMember at h
  split at h
  · rename_i unknown
    obtain ⟨behind, colon, h⟩ := bind_eq_ok h
    obtain ⟨behind, skips, same⟩ := bind_eq_ok h
    cases same
    obtain ⟨between, gap, split⟩ := skipColon_split (ofText_eq_ok colon)
    obtain ⟨ahead, text, gap', value, rfl⟩ := Json.skipValue_split (ofText_eq_ok skips)
    have sets := Sets.foreign (unknown_of_ofKey? unknown) value
    exact ⟨[], between, ahead, text, gap, gap', sets, split, by simpa using filled⟩
  · rename_i field known
    split at h
    · cases h
    · rename_i new
      obtain ⟨behind, colon, reads⟩ := bind_eq_ok h
      obtain ⟨between, gap, split⟩ := skipColon_split (ofText_eq_ok colon)
      obtain ⟨setting, ahead, text, rfl, gap', written, rfl, rfl⟩ := readField_split reads
      have sets := Sets.setting written
      have same : setting.key = key := by
        rw [← key_of_ofKey? known]
        cases setting <;> rfl
      rw [same] at sets
      exact ⟨[setting], between, ahead, text, gap, gap', sets, split,
        filled.set (Bool.not_eq_true _ ▸ new)⟩

theorem readMembers_split {first : Bool} {earlier : List Setting} (filled : draft.Filled earlier)
    (h : readMembers draft first s = .ok (draft', rest)) :
    ∃ order, draft'.Filled (earlier ++ order) ∧
      ((order = [] ∧ ∃ gap, Gap gap ∧ s = gap ++ '\x7d' :: rest) ∨
        ∃ ahead text, Ahead first ahead ∧ Members order text ∧
          s = ahead ++ (text ++ '\x7d' :: rest)) := by
  fun_induction readMembers draft first s generalizing earlier with
  | case1 => cases h
  | case2 draft first s behind next =>
    cases h
    obtain ⟨-, ends⟩ | ⟨_, _, _, _, impossible, -⟩ := nextKey_split next
    · exact ⟨[], by simpa using filled, .inl ⟨rfl, ends⟩⟩
    · cases impossible
  | case3 => cases h
  | case4 draft first s key behind next draft₁ rest₁ member ih =>
    obtain ⟨impossible, -⟩ | ⟨_, ahead, before, name, same, aheads, gap, spells, split⟩ :=
      nextKey_split next
    · cases impossible
    · cases same
      obtain ⟨settings, between, front, text, gap₁, gap₂, sets, rfl, filled₁⟩ :=
        readMember_split filled member
      -- The white space behind the value is met by the search for the next key; it is given back
      -- to the member here.
      obtain ⟨order, filled₂, ⟨rfl, gap₃, gaps, rfl⟩ | ⟨_, others, ⟨⟩ | ⟨gaps⟩, members, rfl⟩⟩ :=
        ih filled₁ h
      · refine ⟨settings, by simpa using filled₂,
          .inr ⟨ahead, _, aheads, .last (.mk gap spells gap₁ gap₂ sets gaps), ?_⟩⟩
        rw [split]
        simp
      · refine ⟨settings ++ order, by simpa using filled₂,
          .inr ⟨ahead, _, aheads, .more (.mk gap spells gap₁ gap₂ sets gaps) members, ?_⟩⟩
        rw [split]
        simp

theorem nextElement_split {first more : Bool} (h : nextElement first s = .ok (more, rest)) :
    (more = false ∧ ∃ gap, Gap gap ∧ s = gap ++ ']' :: rest) ∨
      ∃ ahead before, more = true ∧ Ahead first ahead ∧ Gap before ∧
        s = ahead ++ (before ++ rest) := by
  unfold nextElement at h
  split at h
  · cases h
  · rename_i closing
    cases h
    exact .inl ⟨rfl, skipSpace_token closing⟩
  · rename_i starts
    obtain ⟨gap, gaps, split⟩ := skipSpace_token starts
    split at h
    · rename_i isFirst
      cases h
      cases isFirst
      exact .inr ⟨[], gap, rfl, .first, gaps, split⟩
    · rename_i notFirst
      cases eq_false_of_ne_true notFirst
      split at h
      · rename_i isComma
        split at h
        · cases h
        · cases h
        · cases h
          obtain ⟨before, gap', same⟩ := skipSpace_split _
          exact .inr ⟨_, before, rfl, .next gaps, gap', by rw [← same]; simp [split, isComma]⟩
      · cases h

theorem readElements_split {count : Nat} {fields : List Field} {earlier : List Setting}
    (filled : draft.Filled earlier) (once : fields.Nodup)
    (absent : ∀ field ∈ fields, draft.has field = false)
    (h : readElements draft count fields s = .ok (draft', rest)) :
    ∃ order, draft'.Filled (earlier ++ order) ∧ order.map Setting.field <+: fields ∧
      ((order = [] ∧ ∃ gap, Gap gap ∧ s = gap ++ ']' :: rest) ∨
        ∃ ahead text, Ahead (count == 0) ahead ∧ Row Placed order text ∧
          s = ahead ++ (text ++ ']' :: rest)) := by
  induction fields generalizing draft count s earlier with
  | nil =>
    rw [readElements] at h
    split at h
    · cases h
    · rename_i closing
      cases h
      exact ⟨[], by simpa using filled, List.prefix_rfl, .inl ⟨rfl, skipSpace_token closing⟩⟩
    · cases h
  | cons field fields ih =>
    rw [readElements] at h
    obtain ⟨⟨more, behind⟩, next, h⟩ := bind_eq_ok h
    obtain ⟨rfl, ends⟩ | ⟨ahead, before, rfl, aheads, gap, split⟩ :=
      nextElement_split (ofText_eq_ok next)
    · dsimp only at h
      split at h
      · cases h
      · cases h
        exact ⟨[], by simpa using filled, List.nil_prefix, .inl ⟨rfl, ends⟩⟩
    · obtain ⟨⟨draft₁, rest₁⟩, reads, h⟩ := bind_eq_ok h
      obtain ⟨setting, front, text, rfl, gap₁, written, rfl, rfl⟩ := readField_split reads
      obtain ⟨apart, once⟩ := List.nodup_cons.1 once
      have new := absent _ List.mem_cons_self
      -- Nobody looks whether a field is set already: the fields are different ones.
      have absent : ∀ other ∈ fields, (draft.set setting).has other = false := by
        intro other member
        have different : other ≠ setting.field := fun same => apart (same ▸ member)
        rw [Draft.has_set different]
        exact absent other (List.mem_cons_of_mem _ member)
      obtain ⟨order, filled₁, positional,
        ⟨rfl, gap₂, gaps, rfl⟩ | ⟨_, others, ⟨⟩ | ⟨gaps⟩, row, rfl⟩⟩ :=
        ih (filled.set new) once absent h
      · refine ⟨[setting], by simpa using filled₁, by simp,
          .inr ⟨ahead, _, aheads, .last (.mk (gap.append gap₁) written gaps), ?_⟩⟩
        rw [split]
        simp
      · refine ⟨setting :: order, by simpa using filled₁,
          List.cons_prefix_cons.2 ⟨rfl, positional⟩,
          .inr ⟨ahead, _, aheads, .more (.mk (gap.append gap₁) written gaps) row, ?_⟩⟩
        rw [split]
        simp

theorem readEnd_split (h : readEnd s = .ok ()) : Gap s := by
  unfold readEnd at h
  split at h
  · rename_i nothing
    obtain ⟨gap, gaps, split⟩ := skipSpace_split s
    rw [List.isEmpty_iff.1 nothing, List.append_nil] at split
    exact split ▸ gaps
  · cases h

theorem finish_split {order : List Setting} {request : Request} (filled : draft.Filled order)
    (h : (do
      let request ← ofValues draft.finish
      ofText (readEnd s)
      return request) = .ok request) :
    Gap s ∧ order ≠ [] ∧ ∃ asked : Asked, order.Perm asked.settings ∧ asked.request = request := by
  obtain ⟨_, finishes, h⟩ := bind_eq_ok h
  obtain ⟨⟨⟩, ends, same⟩ := bind_eq_ok h
  cases same
  rw [filled.finish] at finishes
  refine ⟨readEnd_split (ofText_eq_ok ends), ?_, asked_of_assemble filled.once finishes⟩
  rintro rfl
  cases finishes

end

end Preconnect.Request
