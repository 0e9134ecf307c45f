import Mathlib.Data.List.Basic
import Preconnect.Proofs.Rendering

/-!
What a text says, judged mention by mention. The mentions of fields are gone through in their order
and each one either becomes a setting or ends the matter, so the first one that is wrong decides;
only then it is asked what is missing. Filling a draft comes to the same.
-/
namespace Preconnect.Request

open Json (Found)

/-- A place of a text that says something about a field, with what is shown there, or a key that no
characters are spelled by. -/
inductive Mention
  | field (field : Field) (shown : Option Found)
  | garbled

def count? (n : Int) : Option UInt32 :=
  if 0 ≤ n ∧ n ≤ 4294967295 then some (UInt32.ofNat n.toNat) else none

namespace Field

def expected : Field → Expected
  | target | workers => .count
  | failFast => .boolean
  | poolName => .text

def setting? (field : Field) (found : Found) : Option Setting :=
  match field, found with
  | target, .number (.integer n) => (count? n).map .target
  | workers, .number (.integer n) => (count? n).map .workers
  | failFast, .bool value => some (.failFast value)
  | poolName, .null => some (.poolName none)
  | poolName, .text name => some (.poolName (some name))
  | _, _ => none

def refusal (field : Field) (found : Found) : Rejection :=
  match field, found with
  | target, .number (.integer n) | workers, .number (.integer n) => .invalidCount n
  | field, found => .invalidType found field.expected

end Field

namespace Setting

def target? : Setting → Option UInt32
  | target count => some count
  | _ => none

def workers? : Setting → Option UInt32
  | workers count => some count
  | _ => none

def flag? : Setting → Option Bool
  | failFast value => some value
  | _ => none

def name? : Setting → Option (Option String)
  | poolName name => some name
  | _ => none

end Setting

/-- The settings with the one that is mentioned next. Of a field that is set already it does not
matter what is shown. -/
def weigh (settings : List Setting) : Mention → Except ReadError (List Setting)
  | .garbled => .error (.text .malformed)
  | .field field shown =>
    if field ∈ settings.map Setting.field then .error (.values (.duplicate field))
    else
      match shown with
      | none => .error (.text .malformed)
      | some found =>
        match field.setting? found with
        | none => .error (.values (field.refusal found))
        | some setting => .ok (settings ++ [setting])

def assemble (settings : List Setting) : Except ReadError Request :=
  match settings.findSome? Setting.target?, settings.findSome? Setting.workers? with
  | none, _ => .error (.values (.missing .target))
  | some _, none => .error (.values (.missing .workers))
  | some target, some workers =>
    .ok
      { target, workers
        failFast := (settings.findSome? Setting.flag?).getD true
        poolName := (settings.findSome? Setting.name?).getD none
        handler := none }

def judge (mentions : List Mention) : Except ReadError Request :=
  mentions.foldlM weigh [] >>= assemble

/-! ### Drafts -/

def Draft.fill (draft : Draft) (field : Field) (shown : Option Found) : Except ReadError Draft :=
  match shown with
  | none => .error (.text .malformed)
  | some found => ofValues (draft.put field found)

def Draft.heed (draft : Draft) : Mention → Except ReadError Draft
  | .garbled => .error (.text .malformed)
  | .field field shown =>
    if draft.has field then .error (.values (.duplicate field)) else draft.fill field shown

theorem Field.field_of_setting? {field : Field} {found : Found} {setting : Setting}
    (h : field.setting? found = some setting) : setting.field = field := by
  unfold Field.setting? at h
  split at h
  case h_1 | h_2 =>
    obtain ⟨count, -, rfl⟩ := Option.map_eq_some_iff.1 h
    rfl
  all_goals
    cases h
    try rfl

theorem countOf_integer (n : Int) :
    countOf (.number (.integer n)) = match count? n with
      | some count => .ok count
      | none => .error (.invalidCount n) := by
  have bound : (UInt32.size : Int) = 4294967296 := rfl
  by_cases fits : 0 ≤ n ∧ n ≤ 4294967295
  · rw [countOf, if_pos (by omega), count?, if_pos fits]
  · rw [countOf, if_neg (by omega), count?, if_neg fits]

theorem Draft.put_eq (draft : Draft) (field : Field) (found : Found) :
    draft.put field found = match field.setting? found with
      | none => .error (field.refusal found)
      | some setting => .ok (draft.set setting) := by
  cases field with
  | target =>
    cases found with
    | number value =>
      cases value with
      | integer n =>
        rw [put, countOf_integer, Field.setting?]
        cases count? n <;> rfl
      | binary => rfl
    | null | bool | text | sequence | map => rfl
  | workers =>
    cases found with
    | number value =>
      cases value with
      | integer n =>
        rw [put, countOf_integer, Field.setting?]
        cases count? n <;> rfl
      | binary => rfl
    | null | bool | text | sequence | map => rfl
  | failFast | poolName => cases found <;> rfl

structure Draft.Holds (draft : Draft) (settings : List Setting) : Prop where
  target : draft.target = settings.findSome? Setting.target?
  workers : draft.workers = settings.findSome? Setting.workers?
  failFast : draft.failFast = settings.findSome? Setting.flag?
  poolName : draft.poolName = settings.findSome? Setting.name?

theorem Draft.holds_nil : Draft.Holds {} [] := ⟨rfl, rfl, rfl, rfl⟩

theorem Draft.Holds.has {draft : Draft} {settings : List Setting} (holds : draft.Holds settings)
    (field : Field) : draft.has field = true ↔ field ∈ settings.map Setting.field := by
  have found {α : Type} (find : Setting → Option α)
      (finds : ∀ setting, (find setting).isSome = true ↔ setting.field = field) :
      (settings.findSome? find).isSome = true ↔ field ∈ settings.map Setting.field := by
    rw [List.findSome?_isSome_iff, List.mem_map]
    exact exists_congr fun setting => and_congr_right fun _ => finds setting
  cases field with
  | target =>
    rw [Draft.has, holds.target]
    exact found _ fun setting => by cases setting <;> simp [Setting.target?, Setting.field]
  | workers =>
    rw [Draft.has, holds.workers]
    exact found _ fun setting => by cases setting <;> simp [Setting.workers?, Setting.field]
  | failFast =>
    rw [Draft.has, holds.failFast]
    exact found _ fun setting => by cases setting <;> simp [Setting.flag?, Setting.field]
  | poolName =>
    rw [Draft.has, holds.poolName]
    exact found _ fun setting => by cases setting <;> simp [Setting.name?, Setting.field]

theorem Draft.Holds.set {draft : Draft} {settings : List Setting} (holds : draft.Holds settings)
    {setting : Setting} (new : setting.field ∉ settings.map Setting.field) :
    (draft.set setting).Holds (settings ++ [setting]) := by
  have kept {α : Type} {find : Setting → Option α} {held : Option α}
      (same : held = settings.findSome? find) (other : find setting = none) :
      held = (settings ++ [setting]).findSome? find := by
    simp [List.findSome?_append, same, other]
  have gained {α : Type} {find : Setting → Option α} {held : Option α} {value : α}
      (same : held = settings.findSome? find) (free : ¬ held.isSome = true)
      (own : find setting = some value) : some value = (settings ++ [setting]).findSome? find := by
    have none : settings.findSome? find = none := by simpa [same] using free
    simp [List.findSome?_append, none, own]
  have free := (holds.has setting.field).not.2 new
  obtain ⟨target, workers, failFast, poolName⟩ := holds
  cases setting with
  | target =>
    exact ⟨gained target free rfl, kept workers rfl, kept failFast rfl, kept poolName rfl⟩
  | workers =>
    exact ⟨kept target rfl, gained workers free rfl, kept failFast rfl, kept poolName rfl⟩
  | failFast =>
    exact ⟨kept target rfl, kept workers rfl, gained failFast free rfl, kept poolName rfl⟩
  | poolName =>
    exact ⟨kept target rfl, kept workers rfl, kept failFast rfl, gained poolName free rfl⟩

theorem Draft.Holds.finish {draft : Draft} {settings : List Setting}
    (holds : draft.Holds settings) : ofValues draft.finish = assemble settings := by
  rw [Draft.finish, assemble, holds.target, holds.workers, holds.failFast, holds.poolName]
  cases settings.findSome? Setting.target? with
  | none => rfl
  | some target => cases settings.findSome? Setting.workers? <;> rfl

/-- Filling a draft and asking at the end what is missing comes to the judgement. -/
theorem Draft.Holds.judged {draft : Draft} {settings : List Setting}
    (holds : draft.Holds settings) (mentions : List Mention) :
    (mentions.foldlM Draft.heed draft >>= fun draft => ofValues draft.finish) =
      mentions.foldlM weigh settings >>= assemble := by
  induction mentions generalizing draft settings with
  | nil => exact holds.finish
  | cons mention rest ih =>
    rw [List.foldlM_cons, List.foldlM_cons]
    cases mention with
    | garbled => rfl
    | field field shown =>
      by_cases again : field ∈ settings.map Setting.field
      · simp only [Draft.heed, weigh, if_pos again, if_pos ((holds.has field).2 again)]
        rfl
      · simp only [Draft.heed, weigh, if_neg again, if_neg ((holds.has field).not.2 again)]
        cases shown with
        | none => rfl
        | some found =>
          rw [Draft.fill, Draft.put_eq]
          dsimp only
          cases possible : field.setting? found with
          | none => rfl
          | some setting =>
            rw [← Field.field_of_setting? possible] at again
            exact ih (holds.set again)

structure Draft.Filled (draft : Draft) (settings : List Setting) : Prop extends
    draft.Holds settings where
  once : (settings.map Setting.field).Nodup

theorem Draft.filled_nil : Draft.Filled {} [] := ⟨Draft.holds_nil, List.nodup_nil⟩

theorem Draft.Filled.set {draft : Draft} {settings : List Setting} (filled : draft.Filled settings)
    {setting : Setting} (new : draft.has setting.field = false) :
    (draft.set setting).Filled (settings ++ [setting]) := by
  have absent : setting.field ∉ settings.map Setting.field := by
    rw [← filled.has, new]
    exact Bool.false_ne_true
  refine ⟨filled.toHolds.set absent, ?_⟩
  rw [List.map_append, List.map_singleton, ← List.concat_eq_append]
  exact List.Nodup.concat absent filled.once

/-! ### What is asked for -/

theorem target?_iff (setting : Setting) (count : UInt32) :
    setting.target? = some count ↔ setting = .target count := by
  cases setting <;> simp [Setting.target?]

theorem workers?_iff (setting : Setting) (count : UInt32) :
    setting.workers? = some count ↔ setting = .workers count := by
  cases setting <;> simp [Setting.workers?]

theorem flag?_iff (setting : Setting) (value : Bool) :
    setting.flag? = some value ↔ setting = .failFast value := by
  cases setting <;> simp [Setting.flag?]

theorem name?_iff (setting : Setting) (name : Option String) :
    setting.name? = some name ↔ setting = .poolName name := by
  cases setting <;> simp [Setting.name?]

theorem mem_iff_findSome? {α : Type} {order : List Setting}
    (once : (order.map Setting.field).Nodup) {make : α → Setting} {find : Setting → Option α}
    (finds : ∀ setting value, find setting = some value ↔ setting = make value)
    (same : ∀ value value', (make value).field = (make value').field) (value : α) :
    make value ∈ order ↔ order.findSome? find = some value := by
  constructor
  · intro member
    have own : find (make value) = some value := (finds _ _).2 rfl
    cases found : order.findSome? find with
    | none => cases own.symm.trans (List.findSome?_eq_none_iff.1 found _ member)
    | some value' =>
      obtain ⟨setting, member', finds'⟩ := List.exists_of_findSome?_eq_some found
      cases (finds _ _).1 finds'
      have equal := List.inj_on_of_nodup_map once member' member (same value' value)
      rw [← finds', equal, own]
  · intro found
    obtain ⟨setting, member, finds'⟩ := List.exists_of_findSome?_eq_some found
    exact (finds _ _).1 finds' ▸ member

theorem Asked.once (asked : Asked) : (asked.settings.map Setting.field).Nodup :=
  (asked.fresh_settings (.refl _)).once

theorem asked_of_assemble {order : List Setting} {request : Request}
    (once : (order.map Setting.field).Nodup) (makes : assemble order = .ok request) :
    ∃ asked : Asked, order.Perm asked.settings ∧ asked.request = request := by
  unfold assemble at makes
  split at makes
  · cases makes
  · cases makes
  · rename_i target workers hasTarget hasWorkers
    cases makes
    refine ⟨⟨target, workers, order.findSome? Setting.flag?, order.findSome? Setting.name?⟩, ?_,
      rfl⟩
    refine (List.perm_ext_iff_of_nodup once.of_map (Asked.once _).of_map).2 fun setting => ?_
    cases setting with
    | target count =>
      rw [mem_iff_findSome? once target?_iff (fun _ _ => rfl), hasTarget]
      simp [Asked.settings, eq_comm]
    | workers count =>
      rw [mem_iff_findSome? once workers?_iff (fun _ _ => rfl), hasWorkers]
      simp [Asked.settings, eq_comm]
    | failFast value =>
      rw [mem_iff_findSome? once flag?_iff (fun _ _ => rfl)]
      simp [Asked.settings]
    | poolName name =>
      rw [mem_iff_findSome? once name?_iff (fun _ _ => rfl)]
      simp [Asked.settings]

theorem assemble_of_perm {asked : Asked} {order : List Setting}
    (complete : order.Perm asked.settings) : assemble order = .ok asked.request := by
  have once := ((complete.map Setting.field).nodup_iff).2 asked.once
  have target : order.findSome? Setting.target? = some asked.target := by
    rw [← mem_iff_findSome? once target?_iff (fun _ _ => rfl), complete.mem_iff]
    simp [Asked.settings]
  have workers : order.findSome? Setting.workers? = some asked.workers := by
    rw [← mem_iff_findSome? once workers?_iff (fun _ _ => rfl), complete.mem_iff]
    simp [Asked.settings]
  have failFast : order.findSome? Setting.flag? = asked.failFast := by
    ext value
    rw [← mem_iff_findSome? once flag?_iff (fun _ _ => rfl), complete.mem_iff]
    simp [Asked.settings]
  have poolName : order.findSome? Setting.name? = asked.poolName := by
    ext name
    rw [← mem_iff_findSome? once name?_iff (fun _ _ => rfl), complete.mem_iff]
    simp [Asked.settings]
  rw [assemble, target, workers, failFast, poolName]
  rfl

end Preconnect.Request
