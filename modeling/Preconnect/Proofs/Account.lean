import Preconnect.Settlement

/-!
What a log tells about the attempts, the observers and the pool. Each account is one filter of the
log, so whatever adds to the log adds to the accounts in the same order.
-/
namespace Preconnect

namespace Happening

def finished? : Happening → Option (Nat × Except Error Connection)
  | finished _ attempt result => some (attempt, result)
  | _ => none

def established? : Happening → Option Established
  | finished _ attempt (.ok connection) => some ⟨attempt, connection⟩
  | _ => none

def failure? : Happening → Option Failure
  | finished _ attempt (.error error) => some ⟨attempt, error⟩
  | neverRun attempt => some ⟨attempt, .neverRun⟩
  | _ => none

def neverRun? : Happening → Option Nat
  | neverRun attempt => some attempt
  | _ => none

/-- The worker that was cancelled and the attempt that it had not recorded. -/
def loss? : Happening → Option (Nat × Nat)
  | abandoned worker attempt => some (worker, attempt)
  | _ => none

/-- Whether it happened to an attempt. All else is told to the observers or done with connections
that are there already. -/
def isWork : Happening → Bool
  | began .. | finished .. | abandoned .. | neverRun _ => true
  | traced _ | emitted _ | called _ | dropped _ => false

attribute [simp] began? finished? established? failure? neverRun? abandoned? loss? traced?
  emitted? called? dropped? isWork

end Happening

section
variable {α : Type}

def OfWork (find : Happening → Option α) : Prop :=
  ∀ happening, happening.isWork = false → find happening = none

def Untraced (find : Happening → Option α) : Prop := ∀ record, find (.traced record) = none

@[simp] theorem OfWork.untraced {find : Happening → Option α} (h : OfWork find) :
    Untraced find := fun _ => h _ rfl

end

section
open Happening

@[simp] theorem ofWork_began? : OfWork began? := by
  rintro (_ | _) <;> simp

@[simp] theorem ofWork_finished? : OfWork finished? := by
  rintro (_ | _) <;> simp

@[simp] theorem ofWork_established? : OfWork established? := by
  rintro (_ | ⟨_, _, _ | _⟩) <;> simp

@[simp] theorem ofWork_failure? : OfWork failure? := by
  rintro (_ | ⟨_, _, _ | _⟩) <;> simp

@[simp] theorem ofWork_neverRun? : OfWork neverRun? := by
  rintro (_ | _) <;> simp

@[simp] theorem ofWork_abandoned? : OfWork abandoned? := by
  rintro (_ | _) <;> simp

@[simp] theorem ofWork_loss? : OfWork loss? := by
  rintro (_ | _) <;> simp

@[simp] theorem untraced_emitted? : Untraced emitted? := fun _ => rfl

@[simp] theorem untraced_called? : Untraced called? := fun _ => rfl

end

namespace Log

def view {α : Type} (log : Log) (find : Happening → Option α) : List α :=
  log.toList.filterMap find

abbrev began (log : Log) : List Nat := log.view Happening.began?

abbrev results (log : Log) : List (Nat × Except Error Connection) :=
  log.view Happening.finished?

abbrev established (log : Log) : List Established := log.view Happening.established?

abbrev failures (log : Log) : List Failure := log.view Happening.failure?

abbrev neverRun (log : Log) : List Nat := log.view Happening.neverRun?

abbrev abandoned (log : Log) : List Nat := log.view Happening.abandoned?

/-- The events that were made. If there is a handler, it was called with each. -/
abbrev events (log : Log) : List Event := log.view Happening.emitted?

abbrev poolCalls (log : Log) : List PoolCall := log.view Happening.called?

attribute [simp] began results established failures neverRun abandoned events poolCalls

variable {α : Type} {find : Happening → Option α}

@[simp] theorem view_empty : (⟨#[]⟩ : Log).view find = [] := rfl

@[simp] theorem view_add (log : Log) (happening : Happening) :
    (log.add happening).view find = log.view find ++ (find happening).toList := by
  rw [view, toList_add, List.filterMap_append]
  cases h : find happening <;> simp [view, h]

theorem view_drop_of_none (log : Log) (connections : List Connection)
    (h : ∀ connection, find (.dropped connection) = none) :
    (log.drop connections).view find = log.view find := by
  simp [view, toList_drop, List.filterMap_append, List.filterMap_map, h]

@[simp] theorem events_drop (log : Log) (connections : List Connection) :
    (log.drop connections).view Happening.emitted? = log.view Happening.emitted? :=
  log.view_drop_of_none connections fun _ => rfl

@[simp] theorem poolCalls_drop (log : Log) (connections : List Connection) :
    (log.drop connections).view Happening.called? = log.view Happening.called? :=
  log.view_drop_of_none connections fun _ => rfl

@[simp] theorem view_drop (h : OfWork find) (log : Log) (connections : List Connection) :
    (log.drop connections).view find = log.view find :=
  log.view_drop_of_none connections fun _ => h _ rfl

end Log

namespace Observer

variable {α : Type} {find : Happening → Option α}

@[simp] theorem view_trace (h : Untraced find) (observer : Observer) (log : Log)
    (record : Record) : (observer.trace log record).view find = log.view find := by
  unfold trace
  split
  · rw [Log.view_add, h record]
    exact List.append_nil _
  · rfl

@[simp] theorem view_emit (h : OfWork find) (observer : Observer) (log : Log) (notice : Notice) :
    (observer.emit log notice).view find = log.view find := by
  unfold emit
  split
  · rw [Log.view_add, h _ rfl, view_trace h.untraced]
    exact List.append_nil _
  · rfl

def told (observer : Observer) (notices : List Notice) : List Event :=
  if observer.wantsEvents then notices.map observer.event else []

@[simp] theorem told_nil (observer : Observer) : observer.told [] = [] := by
  simp [told]

theorem notices_told (observer : Observer) (notices : List Notice) :
    (observer.told notices).map (·.notice) = if observer.wantsEvents then notices else [] := by
  unfold told
  split
  · rw [List.map_map]
    exact List.map_id _
  · rfl

theorem told_append (observer : Observer) (earlier later : List Notice) :
    observer.told (earlier ++ later) = observer.told earlier ++ observer.told later := by
  unfold told
  split <;> simp

@[simp] theorem events_emit (observer : Observer) (log : Log) (notice : Notice) :
    (observer.emit log notice).view Happening.emitted? =
      log.view Happening.emitted? ++ observer.told [notice] := by
  unfold emit told
  split <;> simp

@[simp] theorem poolCalls_emit (observer : Observer) (log : Log) (notice : Notice) :
    (observer.emit log notice).view Happening.called? = log.view Happening.called? := by
  unfold emit
  split <;> simp

end Observer

end Preconnect
