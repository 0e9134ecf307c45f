import Mathlib.Data.List.Basic
import Preconnect.Proofs.Whereabouts

/-!
What is done once no worker is left and before the connections are handed on: mishaps are traced,
and the attempts still in the queue become failures.
-/
namespace Preconnect.Crew

variable {α : Type} {find : Happening → Option α}

def joined (observer : Observer) (crew : Crew) : Crew :=
  (crew.reportMishaps observer).recordNeverRun

def giveUp (crew : Crew) (attempt : Nat) : Crew :=
  { crew with log := crew.log.add (.neverRun attempt) }.record attempt (.error .neverRun)

theorem recordNeverRun_eq (crew : Crew) :
    crew.recordNeverRun = crew.queue.attempts.foldl giveUp { crew with queue := ⟨[]⟩ } := rfl

theorem view_reportMishaps (h : Untraced find) (observer : Observer) (crew : Crew) :
    (crew.reportMishaps observer).log.view find = crew.log.view find := by
  unfold reportMishaps
  generalize crew.mishaps = mishaps
  generalize crew.log = log
  induction mishaps generalizing log with
  | nil => rfl
  | cons mishap rest ih =>
    rw [List.foldl_cons, ih]
    exact observer.view_trace h log _

theorem foldl_giveUp_frame (crew : Crew) (attempts : List Nat) :
    let after := attempts.foldl giveUp crew
    after.queue = crew.queue ∧ after.stages = crew.stages ∧ after.arrivals = crew.arrivals ∧
      after.calls = crew.calls := by
  induction attempts generalizing crew with
  | nil => exact ⟨rfl, rfl, rfl, rfl⟩
  | cons attempt rest ih => exact ih (crew.giveUp attempt)

theorem view_foldl_giveUp (crew : Crew) (attempts : List Nat) :
    (attempts.foldl giveUp crew).log.view find =
      crew.log.view find ++ attempts.filterMap fun attempt => find (.neverRun attempt) := by
  induction attempts generalizing crew with
  | nil => simp
  | cons attempt rest ih =>
    rw [List.foldl_cons, ih, giveUp, log_record, Log.view_add]
    cases h : find (.neverRun attempt) <;> simp [h]

theorem firstFailure_foldl_giveUp (crew : Crew) (attempts : List Nat)
    (h : crew.firstFailure.kept = crew.log.failures.head?) :
    (attempts.foldl giveUp crew).firstFailure.kept =
      (attempts.foldl giveUp crew).log.failures.head? := by
  induction attempts generalizing crew with
  | nil => exact h
  | cons attempt rest ih =>
    apply ih
    simp [giveUp, record, FirstFailure.kept_offer, List.head?_append, h]

section
variable (observer : Observer) (crew : Crew)

@[simp] theorem stages_joined : (crew.joined observer).stages = crew.stages := by
  rw [joined, recordNeverRun_eq, (foldl_giveUp_frame _ _).2.1]
  rfl

@[simp] theorem arrivals_joined : (crew.joined observer).arrivals = crew.arrivals := by
  rw [joined, recordNeverRun_eq, (foldl_giveUp_frame _ _).2.2.1]
  rfl

@[simp] theorem calls_joined : (crew.joined observer).calls = crew.calls := by
  rw [joined, recordNeverRun_eq, (foldl_giveUp_frame _ _).2.2.2]
  rfl

@[simp] theorem queue_joined : (crew.joined observer).queue = ⟨[]⟩ := by
  rw [joined, recordNeverRun_eq, (foldl_giveUp_frame _ _).1]

@[simp] theorem view_joined (h : Untraced find) :
    (crew.joined observer).log.view find =
      crew.log.view find ++
        crew.queue.attempts.filterMap fun attempt => find (.neverRun attempt) := by
  rw [joined, recordNeverRun_eq, view_foldl_giveUp]
  exact congrArg (· ++ _) (view_reportMishaps h observer crew)

end

theorem faithful_joined {crew : Crew} (h : crew.Faithful) (observer : Observer) :
    (crew.joined observer).Faithful := by
  refine ⟨?_, ?_, ?_, ?_⟩
  · rw [arrivals_joined, h.arrivals]
    simp
  · apply firstFailure_foldl_giveUp
    have kept := h.firstFailure
    have same : (crew.reportMishaps observer).log.failures = crew.log.failures :=
      view_reportMishaps (by simp) observer crew
    rw [← same] at kept
    exact kept
  · rw [calls_joined, h.calls]
    simp
  · have untouched := h.untouched
    simp_all

theorem whereabouts_joined (observer : Observer) (crew : Crew) :
    (crew.joined observer).whereabouts.Perm crew.whereabouts := by
  refine List.perm_iff_count.2 fun attempt => ?_
  simp only [count_whereabouts, queue_joined, stages_joined]
  simp [Function.comp_def]
  omega

end Preconnect.Crew
