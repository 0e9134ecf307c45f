import Mathlib.Data.List.Forall2
import Preconnect.Proofs.Contents

/-!
The two forms of a request. An array gives the fields in their order and an object gives them by
key; whatever the values are, they are judged as the same mentions.
-/
namespace Preconnect.Request

open Json (Derives Element Found Gap Row Shows Spells Stops shows_literal skipSpace skipSpace_gap)

/-- The fields in their order with what is shown for them, as long as anything is shown. -/
def inOrder (shown : List (Option Found)) : List Mention :=
  List.zipWith .field Field.all shown

def arrayText (values : List (List Char)) : String :=
  String.ofList ('[' :: ([','].intercalate values ++ [']']))

def Field.member (field : Field) (value : List Char) : List Char :=
  '"' :: (field.key.toList ++ '"' :: ':' :: value)

def objectText (values : List (List Char)) : String :=
  String.ofList
    ('\x7b' :: ([','].intercalate (List.zipWith Field.member Field.all values) ++ ['\x7d']))

section
variable {gap rest text : List Char}

theorem row_intercalate {α : Type} {item : α → List Char → Prop} {as : List α}
    {texts : List (List Char)} (items : List.Forall₂ item as texts) (some : texts ≠ []) :
    Row item as ([','].intercalate texts) := by
  induction items with
  | nil => exact absurd rfl some
  | cons first others ih =>
    cases others with
    | nil => simpa using Row.last first
    | cons second others => simpa using Row.more first (ih (List.cons_ne_nil _ _))

/-! ### Arrays -/

theorem nextElement_read {shown : Option Found} (element : Element shown text) (first : Bool)
    (s : List Char) :
    nextElement first (comma first ++ (text ++ s)) = .ok (true, skipSpace (text ++ s)) := by
  obtain ⟨c, behind, starts, other⟩ := element.derives.head_item s
  rw [starts]
  cases first with
  | true =>
    rw [comma, if_pos rfl, List.nil_append, nextElement, starts]
    split <;> simp_all [Json.Bracket.closing]
  | false =>
    have token : skipSpace (',' :: (text ++ s)) = ',' :: (text ++ s) := rfl
    rw [comma, if_neg Bool.false_ne_true, List.singleton_append, nextElement, token]
    split
    · contradiction
    · rename_i closing
      simp at closing
    · rename_i same
      cases same
      rw [if_neg Bool.false_ne_true, if_pos rfl, starts]
      split <;> simp_all [Json.Bracket.closing]

theorem readElements_gap (gaps : Gap gap) (draft : Draft) (count : Nat) (fields : List Field)
    (s : List Char) :
    readElements draft count fields (gap ++ s) = readElements draft count fields s := by
  cases fields with
  | nil => rw [readElements, skipSpace_gap gaps, ← readElements]
  | cons field fields =>
    rw [readElements, nextElement, skipSpace_gap gaps, ← nextElement, ← readElements]

theorem readElements_end {count : Nat} (enough : 2 ≤ count) (draft : Draft) (fields : List Field)
    (s : List Char) : readElements draft count fields (']' :: s) = .ok (draft, s) := by
  cases fields with
  | nil => rfl
  | cons field fields =>
    have few : ¬count < 2 := Nat.not_lt.2 enough
    have ends (first : Bool) : nextElement first (']' :: s) = .ok (false, s) := rfl
    rw [readElements, ends, ofText, ok_bind]
    exact if_neg few

theorem readElements_element {shown : Option Found} (element : Element shown text)
    (stops : Stops rest) (draft : Draft) (count : Nat) (field : Field) (fields : List Field) :
    readElements draft count (field :: fields) (comma (count == 0) ++ (text ++ rest)) =
      draft.fill field shown >>= fun draft => readElements draft (count + 1) fields rest := by
  rw [readElements, nextElement_read element, ofText, ok_bind]
  obtain ⟨gap, shows, gap₁⟩ := element
  have value := readField_shown gap shows (Json.stops_gap gap₁ stops) draft field
  rw [readField, ← Json.skipSpace_skipSpace, ← readField] at value
  simp only [List.append_assoc, value]
  cases draft.fill field shown with
  | error => rfl
  | ok filled => exact readElements_gap gap₁ filled (count + 1) fields rest

theorem has_of_fill {draft filled : Draft} {field other : Field} {shown : Option Found}
    (fills : draft.fill field shown = .ok filled) (apart : other ≠ field) :
    filled.has other = draft.has other := by
  cases shown with
  | none => cases fills
  | some found =>
    rw [Draft.fill, Draft.put_eq] at fills
    cases possible : field.setting? found with
    | none =>
      rw [possible] at fills
      cases fills
    | some setting =>
      rw [possible] at fills
      cases fills
      rw [← Field.field_of_setting? possible] at apart
      exact Draft.has_set apart draft

theorem readElements_row {shown : List (Option Found)} (row : Row Element shown text)
    {draft : Draft} {count : Nat} {fields : List Field} (once : fields.Nodup)
    (absent : ∀ field ∈ fields, draft.has field = false) (room : shown.length ≤ fields.length)
    (enough : 2 ≤ count + shown.length) (behind : List Char) :
    readElements draft count fields (comma (count == 0) ++ (text ++ ']' :: behind)) =
      ((List.zipWith Mention.field fields shown).foldlM Draft.heed draft).map
        fun draft => (draft, behind) := by
  induction row generalizing draft count fields with
  | @last shown text element =>
    cases fields with
    | nil => simp at room
    | cons field fields =>
      have stops : Stops (']' :: behind) := Json.stops_closing .array behind
      have ends (draft : Draft) := readElements_end enough draft fields behind
      rw [readElements_element element stops, List.zipWith_cons_cons, List.zipWith_nil_right,
        List.foldlM_cons, Draft.heed, absent field List.mem_cons_self, if_neg Bool.false_ne_true]
      cases draft.fill field shown with
      | error => rfl
      | ok filled => exact ends filled
  | @more shown others text rest element row ih =>
    cases fields with
    | nil => simp at room
    | cons field fields =>
      obtain ⟨apart, once⟩ := List.nodup_cons.1 once
      rw [List.append_assoc, List.cons_append, readElements_element element (Json.stops_comma _),
        List.zipWith_cons_cons, List.foldlM_cons, Draft.heed, absent field List.mem_cons_self,
        if_neg Bool.false_ne_true]
      cases fills : draft.fill field shown with
      | error => rfl
      | ok filled =>
        refine ih once (fun other member => ?_) (by simpa using room)
          (by simpa [Nat.add_assoc, Nat.add_comm 1] using enough)
        rw [has_of_fill fills fun same => apart (same ▸ member)]
        exact absent other (List.mem_cons_of_mem _ member)

theorem array_judged {shown : List (Option Found)} {before behind : List Char}
    (row : Row Element shown text) (least : 2 ≤ shown.length) (most : shown.length ≤ 4)
    (gap : Gap before) (gap₁ : Gap behind) :
    read (String.ofList (before ++ '[' :: (text ++ ']' :: behind))) = judge (inOrder shown) := by
  have bracket : skipSpace (before ++ '[' :: (text ++ ']' :: behind)) =
      '[' :: (text ++ ']' :: behind) := by
    rw [skipSpace_gap gap]
    rfl
  have absent : ∀ field ∈ Field.all, Draft.has {} field = false := by decide
  have reads : readElements {} 0 Field.all (text ++ ']' :: behind) =
      ((inOrder shown).foldlM Draft.heed {}).map fun draft => (draft, behind) :=
    readElements_row row (by decide) absent most (by omega) behind
  rw [read, String.toList_ofList, readChars, bracket]
  simp only [reads]
  exact finish_judge gap₁ _

/-! ### Objects -/

theorem spells_key (field : Field) : Spells .read field.key.toList field.key.toList := by
  have same : field.key.toList.flatMap Json.writeChar = field.key.toList := by
    cases field <;> decide
  rw [← same]
  exact same.symm ▸ Json.spells_written field.key.toList

theorem tells_member {shown : Option Found} (element : Element shown text) (field : Field) :
    Tells [.field field shown] (field.member text) := by
  obtain ⟨gap, shows, gap₁⟩ := element
  exact .mk Json.gap_nil Json.gap_nil gap (.field (spells_key field) shows) gap₁

theorem tells_members {shown : List (Option Found)} {values : List (List Char)}
    (elements : List.Forall₂ Element shown values) (fields : List Field) :
    List.Forall₂ Tells ((List.zipWith Mention.field fields shown).map fun mention => [mention])
      (List.zipWith Field.member fields values) := by
  induction elements generalizing fields with
  | nil => simp
  | cons element elements ih =>
    cases fields with
    | nil => simp
    | cons field fields => exact .cons (tells_member element field) (ih fields)

theorem object_judged {shown : List (Option Found)} {values : List (List Char)}
    (elements : List.Forall₂ Element shown values) (some : values ≠ []) :
    read (objectText values) = judge (inOrder shown) := by
  have members : List.zipWith Field.member Field.all values ≠ [] := by
    cases values with
    | nil => exact absurd rfl some
    | cons value values => exact List.cons_ne_nil _ _
  have contents := Contents.members (row_intercalate (tells_members elements Field.all) members)
  have judged := contents.judged Json.gap_nil Json.gap_nil
  rwa [← List.flatMap_def, List.flatMap_singleton'] at judged

theorem elements_iff {values : List (List Char)} :
    (∀ value ∈ values, Derives (.item .array) value) ↔
      ∃ shown, List.Forall₂ Element shown values := by
  constructor
  · intro wellFormed
    induction values with
    | nil => exact ⟨[], .nil⟩
    | cons value values ih =>
      obtain ⟨first, others⟩ := List.forall_mem_cons.1 wellFormed
      obtain ⟨shown, element⟩ := Json.element_some first
      obtain ⟨rest, elements⟩ := ih others
      exact ⟨shown :: rest, .cons element elements⟩
  · rintro ⟨shown, elements⟩
    induction elements with
    | nil => exact List.forall_mem_nil _
    | cons element _ ih => exact List.forall_mem_cons.2 ⟨element.derives, ih⟩

end

end Preconnect.Request
