import Preconnect.Proofs.Inversion

/-!
What a text that is accepted looks like. It is one well-formed value that says what is asked for,
and nothing else is accepted.
-/
namespace Preconnect.Request

open Json (Derives Element Found Gap Row skipSpace_token)

/-- The values that ask for it: objects that set every field once under its key, and arrays of the
fields in their order. -/
inductive Asked.Stated (asked : Asked) : List Char → Prop
  | object {order : List Setting} {inside : List Char} (members : Members order inside)
      (complete : order.Perm asked.settings) :
    Stated asked ('\x7b' :: (inside ++ ['\x7d']))
  | array {order : List Setting} {inside : List Char} (elements : Row Placed order inside)
      (complete : order.Perm asked.settings)
      (positional : order.map Setting.field <+: Field.all) :
    Stated asked ('[' :: (inside ++ [']']))

theorem readChars_split {s : List Char} {request : Request} (h : readChars s = .ok request) :
    ∃ (asked : Asked) (before value behind : List Char),
      s = before ++ (value ++ behind) ∧ Gap before ∧ Gap behind ∧ asked.Stated value ∧
        asked.request = request := by
  unfold readChars at h
  split at h
  · rename_i bracket
    obtain ⟨before, gap, rfl⟩ := skipSpace_token bracket
    obtain ⟨⟨draft, behind⟩, reads, h⟩ := bind_eq_ok h
    obtain ⟨order, filled, positional, found⟩ :=
      readElements_split Draft.filled_nil (by decide) (by decide) reads
    obtain ⟨gap₁, some, asked, complete, makes⟩ := finish_split filled h
    obtain ⟨none, -⟩ | ⟨_, text, ⟨⟩, row, rfl⟩ := found
    · exact absurd none some
    · exact ⟨asked, before, _, behind, by simp, gap, gap₁, .array row complete positional, makes⟩
  · rename_i brace
    obtain ⟨before, gap, rfl⟩ := skipSpace_token brace
    obtain ⟨⟨draft, behind⟩, reads, h⟩ := bind_eq_ok h
    obtain ⟨order, filled, found⟩ := readMembers_split Draft.filled_nil reads
    obtain ⟨gap₁, some, asked, complete, makes⟩ := finish_split filled h
    obtain ⟨none, -⟩ | ⟨_, text, ⟨⟩, members, rfl⟩ := found
    · exact absurd none some
    · exact ⟨asked, before, _, behind, by simp, gap, gap₁, .object members complete, makes⟩
  · obtain ⟨_, -, impossible⟩ := bind_eq_ok h
    cases impossible

theorem Sets.derives {key : String} {text : List Char} {settings : List Setting}
    (sets : Sets key text settings) : Derives .value text := by
  cases sets with
  | setting written =>
    obtain ⟨_, shows, -⟩ := written_iff.1 written
    exact shows.derives
  | foreign _ value => exact value

theorem Member.derives {settings : List Setting} {text : List Char}
    (member : Member settings text) : Derives (.item .object) text := by
  obtain ⟨gap, spells, gap₁, gap₂, sets, gap₃⟩ := member
  obtain ⟨_, skips⟩ := spells.skipped
  exact .member gap skips gap₁ gap₂ sets.derives gap₃

theorem Members.derives {settings : List Setting} {text : List Char}
    (members : Members settings text) : Derives (.items .object) text := by
  induction members with
  | last member => exact .last member.derives
  | more member _ ih => exact .more member.derives ih

theorem Placed.shows {setting : Setting} {text : List Char} (placed : Placed setting text) :
    ∃ found, Element (some found) text ∧ setting.field.setting? found = some setting := by
  obtain ⟨gap, written, gap₁⟩ := placed
  obtain ⟨found, shows, takes⟩ := written_iff.1 written
  exact ⟨found, .mk gap shows gap₁, takes⟩

theorem Asked.Stated.derives {asked : Asked} {value : List Char} (stated : asked.Stated value) :
    Derives .value value := by
  cases stated with
  | object members => exact .object members.derives
  | array elements =>
    refine .array (elements.derives fun placed => ?_)
    obtain ⟨_, element, -⟩ := placed.shows
    exact element.derives

theorem row_placed {order : List Setting} {inside : List Char} (row : Row Placed order inside) :
    ∃ founds : List Found, Row Element (founds.map some) inside ∧
      List.Forall₂ (fun setting found => setting.field.setting? found = some setting)
        order founds := by
  induction row with
  | last placed =>
    obtain ⟨found, element, takes⟩ := placed.shows
    exact ⟨[found], .last element, .cons takes .nil⟩
  | more placed _ ih =>
    obtain ⟨found, element, takes⟩ := placed.shows
    obtain ⟨founds, row, others⟩ := ih
    exact ⟨found :: founds, .more element row, .cons takes others⟩

theorem foldlM_weigh (earlier : List Setting) {order : List Setting} {founds : List Found}
    {fields : List Field}
    (takes : List.Forall₂ (fun setting found => setting.field.setting? found = some setting)
      order founds)
    (positional : order.map Setting.field <+: fields)
    (once : ((earlier ++ order).map Setting.field).Nodup) :
    (List.zipWith Mention.field fields (founds.map some)).foldlM weigh earlier =
      .ok (earlier ++ order) := by
  induction takes generalizing earlier fields with
  | nil => simp [pure, Except.pure]
  | @cons setting found order founds taken _ ih =>
    cases fields with
    | nil => simp at positional
    | cons field fields =>
      rw [List.map_cons, List.cons_prefix_cons] at positional
      obtain ⟨rfl, positional⟩ := positional
      rw [← List.singleton_append, ← List.append_assoc] at once
      have new : setting.field ∉ earlier.map Setting.field := by
        rw [List.map_append, List.map_append, List.map_singleton] at once
        have apart := (List.nodup_append.1 once.of_append_left).2.2
        exact fun member => apart _ member _ List.mem_cons_self rfl
      rw [List.map_cons, List.zipWith_cons_cons, List.foldlM_cons, weigh, if_neg new]
      simp only [taken, ok_bind]
      rw [ih _ positional once, List.append_assoc, List.singleton_append]

theorem Asked.Stated.read {asked : Asked} {before value behind : List Char}
    (stated : asked.Stated value) (gap : Gap before) (gap₁ : Gap behind) :
    Request.read (String.ofList (before ++ (value ++ behind))) = .ok asked.request := by
  cases stated with
  | object members complete =>
    have read := (Asked.Renders.mk gap members complete gap₁).read
    simpa using read
  | @array order inside elements complete positional =>
    obtain ⟨founds, row, takes⟩ := row_placed elements
    have length := takes.length_eq
    have least : 2 ≤ order.length := by simp [complete.length_eq, Asked.settings]
    have most : (order.map Setting.field).length ≤ 4 := positional.length_le
    rw [List.length_map] at most
    have judged := array_judged row (by simpa [← length] using least)
      (by simpa [← length] using most) gap gap₁
    have once := ((complete.map Setting.field).nodup_iff).2 asked.once
    rw [judge, inOrder, foldlM_weigh [] takes positional once, ok_bind, List.nil_append,
      assemble_of_perm complete] at judged
    simpa using judged

/-- A text is accepted if and only if it is one well-formed value, with nothing but white space
around it, that says what is asked for: an object that sets each count once and each of the other
fields at most once, or an array of two to four of the fields in their order. The counts are in
digits without sign, fraction, exponent or leading zero, and are those of the request; there is no
handler. -/
theorem accepts_only (text : String) (request : Request) :
    read text = .ok request ↔
      ∃ (asked : Asked) (before value behind : List Char),
        text = String.ofList (before ++ (value ++ behind)) ∧ Gap before ∧ Derives .value value ∧
          Gap behind ∧ asked.Stated value ∧ asked.request = request := by
  constructor
  · intro accepted
    obtain ⟨asked, before, value, behind, split, gap, gap₁, stated, makes⟩ :=
      readChars_split accepted
    refine ⟨asked, before, value, behind, ?_, gap, stated.derives, gap₁, stated, makes⟩
    rw [← split, String.ofList_toList]
  · rintro ⟨asked, before, value, behind, rfl, gap, -, gap₁, stated, rfl⟩
    exact stated.read gap gap₁

end Preconnect.Request
