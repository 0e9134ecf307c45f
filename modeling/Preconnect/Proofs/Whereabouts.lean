import Preconnect.Proofs.Change

/-!
Where the attempts of a warm-up are. Each is in the queue, held by one worker, recorded, or lost
with a worker that was cancelled, and no step of any worker makes more or fewer of them.
-/
namespace Preconnect

def Stage.assigned? : Stage → Option Nat
  | assigned attempt => some attempt
  | _ => none

def Stage.begun? : Stage → Option Nat
  | waiting attempt _ | settled attempt _ => some attempt
  | _ => none

attribute [simp] Stage.assigned? Stage.begun? Stage.held?

namespace Crew

variable {observer : Observer} {supply : Supply} {action : Action} {crew crew' : Crew}

abbrev held (crew : Crew) : List Nat := gather crew.stages Stage.held?

/-- Every attempt once for each place where it is. -/
def whereabouts (crew : Crew) : List Nat :=
  crew.queue.attempts ++ crew.held ++ crew.log.established.map (·.attempt) ++
    crew.log.failures.map (·.attempt) ++ crew.log.abandoned

theorem count_whereabouts (crew : Crew) (attempt : Nat) :
    crew.whereabouts.count attempt =
      crew.queue.attempts.count attempt + (gather crew.stages Stage.held?).count attempt +
        (crew.log.established.map (·.attempt)).count attempt +
        (crew.log.failures.map (·.attempt)).count attempt + crew.log.abandoned.count attempt := by
  simp only [whereabouts, List.count_append]

/-- No step makes an attempt, loses one, or puts it in a second place. -/
theorem whereabouts_change (change : Change observer supply action crew crew') :
    crew'.whereabouts.Perm crew.whereabouts := by
  refine List.perm_iff_count.2 fun attempt => ?_
  obtain @⟨old, new, shared, h, shift⟩ := change
  -- What the worker no longer holds must be in the log, and what it holds now was in the queue.
  have moved := count_gather_set h new Stage.held? attempt
  rw [count_whereabouts, count_whereabouts, stages_setStage, shift.stages]
  cases shift with
  | take taken =>
    simp [taken, List.count_cons] at moved ⊢
    omega
  | @record worker attempt result => cases result <;> simp at moved ⊢ <;> omega
  | abandon held =>
    rw [held] at moved
    simp at moved ⊢
    omega
  | leave alive free =>
    rw [free] at moved
    simp at moved ⊢
    omega
  | start | stop | begin | finish | tell | die =>
    simp at moved ⊢
    omega

/-- What the workers share is what the log tells of it, and the pool is not for them to touch. -/
structure Faithful (crew : Crew) : Prop where
  arrivals : crew.arrivals.held.toList = crew.log.established
  firstFailure : crew.firstFailure.kept = crew.log.failures.head?
  calls : crew.calls = crew.log.began.length
  untouched : crew.log.poolCalls = []

theorem faithful_record (h : crew.Faithful) (worker attempt : Nat)
    (result : Except Error Connection) :
    Faithful ({ crew with log := crew.log.add (.finished worker attempt result) }.record attempt
      result) := by
  cases result with
  | ok connection =>
    refine ⟨?_, ?_, ?_, ?_⟩
    · simpa [record, Arrivals.toList_held_append] using h.arrivals
    · simpa [record] using h.firstFailure
    · simpa [record] using h.calls
    · simpa [record] using h.untouched
  | error error =>
    refine ⟨?_, ?_, ?_, ?_⟩
    · simpa [record] using h.arrivals
    · simp [record, FirstFailure.kept_offer, List.head?_append, h.firstFailure]
    · simpa [record] using h.calls
    · simpa [record] using h.untouched

theorem faithful_change (change : Change observer supply action crew crew') (h : crew.Faithful) :
    crew'.Faithful := by
  obtain ⟨-, shift⟩ := change
  cases shift with
  | @record worker attempt result =>
    have kept := faithful_record h worker attempt result
    exact ⟨kept.arrivals, kept.firstFailure, kept.calls, kept.untouched⟩
  | start | take | stop | begin | finish | tell | die | abandon | leave =>
    exact ⟨by simpa using h.arrivals, by simpa using h.firstFailure, by simpa using h.calls,
      by simpa using h.untouched⟩

/-- The attempts that the establisher was called for, and those that it may be called for yet. -/
def prospects (crew : Crew) : List Nat :=
  crew.log.began ++ crew.queue.attempts ++ gather crew.stages Stage.assigned?

theorem prospects_change (change : Change observer supply action crew crew') (attempt : Nat) :
    crew'.prospects.count attempt ≤ crew.prospects.count attempt := by
  obtain @⟨old, new, shared, h, shift⟩ := change
  have moved := count_gather_set h new Stage.assigned? attempt
  simp only [prospects, List.count_append, stages_setStage, shift.stages]
  cases shift with
  | take taken =>
    simp [taken, List.count_cons] at moved ⊢
    omega
  | start | stop | begin | finish | record | tell | die | abandon | leave =>
    simp at moved ⊢
    omega

/-- The attempts that have a result or that a worker has called the establisher for. -/
def pursued (crew : Crew) : List Nat :=
  crew.log.results.map (·.1) ++ gather crew.stages Stage.begun?

theorem pursued_change (change : Change observer supply action crew crew') (attempt : Nat) :
    crew'.pursued.count attempt + crew.log.began.count attempt ≤
      crew.pursued.count attempt + crew'.log.began.count attempt := by
  obtain @⟨old, new, shared, h, shift⟩ := change
  have moved := count_gather_set h new Stage.begun? attempt
  simp only [pursued, List.count_append, stages_setStage, shift.stages]
  cases shift with
  | start | take | stop | begin | finish | record | tell | die | abandon | leave =>
    simp at moved ⊢
    omega

theorem began_change (change : Change observer supply action crew crew') (attempt : Nat) :
    crew'.log.began.count attempt + crew.pursued.count attempt + crew.log.abandoned.count attempt ≤
      crew.log.began.count attempt + crew'.pursued.count attempt +
        crew'.log.abandoned.count attempt := by
  obtain @⟨old, new, shared, h, shift⟩ := change
  have moved := count_gather_set h new Stage.begun? attempt
  simp only [pursued, List.count_append, stages_setStage, shift.stages]
  cases shift with
  | abandon held =>
    cases old with
    | assigned | waiting | settled =>
      cases held
      simp at moved ⊢
      omega
    | fresh | idle | recorded | ended => cases held
  | leave alive free =>
    cases old with
    | waiting | settled => cases free
    | fresh | idle | assigned | recorded | ended =>
      simp at moved ⊢
      omega
  | start | take | stop | begin | finish | record | tell | die =>
    simp at moved ⊢
    omega

theorem gather_replicate {α : Type} (count : Nat) {find : Stage → Option α}
    (h : find .fresh = none) : gather (Array.replicate count .fresh) find = [] := by
  rw [gather, Array.toList_replicate, List.filterMap_replicate_of_none h]

theorem gather_of_isOver {α : Type} {find : Stage → Option α} (allOver : crew.isOver = true)
    (h : ∀ ending, find (.ended ending) = none) : gather crew.stages find = [] := by
  rw [gather, List.filterMap_eq_nil_iff]
  intro stage member
  have ended := Array.all_eq_true'.1 allOver stage (Array.mem_toList_iff.1 member)
  cases stage with
  | ended ending => exact h ending
  | fresh | idle | assigned | waiting | settled | recorded => cases ended

theorem view_crew {α : Type} {find : Happening → Option α} (h : OfWork find) (request : Request)
    (observer : Observer) : (request.crew observer).log.view find = [] := by
  simp [Request.crew, ofCounts, h]

theorem gather_crew {α : Type} {find : Stage → Option α} (h : find .fresh = none)
    (request : Request) (observer : Observer) :
    gather (request.crew observer).stages find = [] :=
  gather_replicate _ h

theorem whereabouts_crew (request : Request) (observer : Observer) :
    (request.crew observer).whereabouts = List.range request.target.toNat := by
  rw [whereabouts, held, gather_crew rfl]
  simp [Request.crew, ofCounts, Queue.ofTarget]

theorem prospects_crew (request : Request) (observer : Observer) :
    (request.crew observer).prospects = List.range request.target.toNat := by
  rw [prospects, gather_crew rfl]
  simp [Request.crew, ofCounts, Queue.ofTarget]

variable {request : Request}

theorem faithful_crew (request : Request) (observer : Observer) :
    (request.crew observer).Faithful := by
  refine ⟨?_, ?_, ?_, ?_⟩
  · rw [Log.established, view_crew ofWork_established?]
    rfl
  · rw [Log.failures, view_crew ofWork_failure?]
    rfl
  · rw [Log.began, view_crew ofWork_began?]
    rfl
  · simp [Request.crew, ofCounts]

theorem faithful_reached
    (h : Reached observer supply (request.crew observer) crew) : crew.Faithful :=
  reached_invariant Faithful faithful_change h (faithful_crew request observer)

theorem pursued_reached (h : Reached observer supply (request.crew observer) crew)
    (attempt : Nat) : crew.pursued.count attempt ≤ crew.log.began.count attempt := by
  refine reached_invariant (fun crew =>
    crew.pursued.count attempt ≤ crew.log.began.count attempt) (fun change ih => ?_) h ?_
  · have := pursued_change change attempt
    omega
  · rw [pursued, gather_crew rfl, Log.results, view_crew ofWork_finished?]
    simp

theorem began_reached (h : Reached observer supply (request.crew observer) crew)
    {attempt : Nat} (began : attempt ∈ crew.log.began) :
    attempt ∈ gather crew.stages Stage.begun? ∨ attempt ∈ crew.log.abandoned ∨
      attempt ∈ crew.log.results.map (·.1) := by
  have most : crew.log.began.count attempt ≤
      crew.pursued.count attempt + crew.log.abandoned.count attempt := by
    refine reached_invariant (fun crew => crew.log.began.count attempt ≤
      crew.pursued.count attempt + crew.log.abandoned.count attempt) (fun change ih => ?_) h ?_
    · have := began_change change attempt
      omega
    · rw [Log.began, view_crew ofWork_began?]
      exact Nat.zero_le _
  have some := List.count_pos_iff.2 began
  simp only [← List.count_pos_iff]
  rw [pursued, List.count_append] at most
  omega

end Crew

end Preconnect
