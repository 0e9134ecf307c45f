import Preconnect.Proofs.Turns

/-!
What the observers are told, and when. In the middle of a turn one result may be recorded and not
yet told; between turns every result has been told, in the order in which results were recorded.
-/
namespace Preconnect

def Stage.untold? : Stage → Option Notice
  | recorded attempt result => some (.ofResult attempt result)
  | _ => none

/-- The notices of a warm-up that began with the first one, up to the end of its last worker. -/
def Log.tidings (first : Notice) (log : Log) : List Notice :=
  first :: log.results.map fun result => .ofResult result.1 result.2

namespace Crew

variable {observer : Observer} {supply : Supply} {plan : Plan} {first : Notice}
  {crew crew' shared : Crew} {worker : Nat} {action : Action} {old new : Stage}

/-- The observers have been told of all results but those of the untold notices. -/
def Tells (observer : Observer) (first : Notice) (crew : Crew) (untold : List Notice) : Prop :=
  crew.log.events ++ observer.told untold = observer.told (crew.log.tidings first)

theorem tidings_add_finished (log : Log) (first : Notice) (worker attempt : Nat)
    (result : Except Error Connection) :
    (log.add (.finished worker attempt result)).tidings first =
      log.tidings first ++ [.ofResult attempt result] := by
  simp [Log.tidings]

theorem tells_shift (shift : Shift observer supply crew action old new shared)
    (calm : ∀ worker, action = .cancel worker → old.untold? = none)
    (h : Tells observer first crew old.untold?.toList) :
    Tells observer first shared new.untold?.toList := by
  unfold Tells at h ⊢
  cases shift with
  | @record worker attempt result =>
    rw [log_record, tidings_add_finished, Observer.told_append]
    simpa [Stage.untold?] using h
  | tell | die => simpa [Stage.untold?, Log.tidings] using h
  | abandon | leave =>
    rw [calm _ rfl] at h
    simpa [Stage.untold?, Log.tidings] using h
  | start | take | stop | begin | finish => simpa [Stage.untold?, Log.tidings] using h

structure InTurn (observer : Observer) (first : Notice) (worker : Nat) (crew : Crew) : Prop where
  alone : ∀ (other : Nat) (stage : Stage), other ≠ worker → crew.stages[other]? = some stage →
    stage.untold? = none
  tells : Tells observer first crew (crew.stages[worker]?.bind Stage.untold?).toList

/-- Between turns no worker has anything left to tell. -/
structure Told (observer : Observer) (first : Notice) (crew : Crew) : Prop where
  silent : ∀ (worker : Nat) (stage : Stage), crew.stages[worker]? = some stage →
    stage.untold? = none
  tells : Tells observer first crew []

theorem Told.inTurn (h : Told observer first crew) (worker : Nat) :
    InTurn observer first worker crew := by
  refine ⟨fun other stage _ here => h.silent other stage here, ?_⟩
  cases here : crew.stages[worker]? with
  | none => exact h.tells
  | some stage => simpa [h.silent worker stage here] using h.tells

theorem InTurn.told (h : InTurn observer first worker crew)
    (silent : ∀ stage : Stage, crew.stages[worker]? = some stage → stage.untold? = none) :
    Told observer first crew := by
  refine ⟨fun other stage here => ?_, ?_⟩
  · by_cases same : other = worker
    · subst same
      exact silent stage here
    · exact h.alone other stage same here
  · have tells := h.tells
    cases here : crew.stages[worker]? with
    | none => simpa [here] using tells
    | some stage => simpa [here, silent stage here] using tells

/-- Cancelling a worker between recording and telling would lose a notice. -/
def Calm (crew : Crew) : Action → Prop
  | .cancel worker => ∀ stage : Stage, crew.stages[worker]? = some stage → stage.untold? = none
  | .advance _ | .finish .. => True

theorem inTurn_step (calm : Calm crew action) (h : InTurn observer first action.worker crew) :
    InTurn observer first action.worker (crew.step observer action) := by
  rcases step_eq_or_change observer (allows_anything crew action) with same | change
  · rw [same]
    exact h
  refine ⟨fun other stage different here => ?_, ?_⟩
  · rw [change.stages_of_ne different] at here
    exact h.alone other stage different here
  -- The worker's own stage says what it has not told, before the step and after it.
  · generalize crew.step observer action = crew' at change
    obtain @⟨old, new, shared, here, shift⟩ := change
    have hw : action.worker < crew.stages.size := (Array.getElem?_eq_some_iff.1 here).1
    have before := h.tells
    rw [here] at before
    have after := tells_shift shift (fun worker cancels => by
      subst cancels
      exact calm old here) before
    simpa [shift.stages, hw, Tells, Log.tidings] using after

theorem told_turn (h : Told observer first crew) (plan : Plan) (worker : Nat) :
    Told observer first (crew.turn observer plan worker) := by
  have after : InTurn observer first worker (crew.turn observer plan worker) := by
    refine turn_invariant (InTurn observer first worker) (fun before action next ih => ?_)
      (h.inTurn worker)
    have own := worker_of_next next
    have calm : Calm before action := by
      obtain rfl | ⟨outcome, rfl⟩ := own_of_next next <;> trivial
    subst own
    exact inTurn_step calm ih
  refine after.told fun stage here => ?_
  have rests := rests_turn observer plan worker crew
  rw [Rests, here] at rests
  cases stage with
  | recorded => cases rests
  | fresh | idle | assigned | waiting | settled | ended => rfl

theorem told_turns (h : Told observer first crew) (plan : Plan) (workers : List Nat) :
    Told observer first (crew.turns observer plan workers) :=
  turns_invariant (Told observer first) (fun worker sofar => told_turn sofar plan worker) workers h

theorem told_release (h : Told observer first crew) (items : List (Nat × Outcome)) :
    Told observer first (crew.release observer items).1 := by
  refine ⟨fun worker stage here => ?_, ?_⟩
  · rcases stages_release observer crew items worker with same | ⟨-, attempt, result, settled⟩
    · rw [same] at here
      exact h.silent worker stage here
    · rw [settled] at here
      cases here
      rfl
  · have tells := h.tells
    unfold Tells at tells ⊢
    rwa [log_release]

theorem told_cancelAll (h : Told observer first crew) :
    Told observer first (crew.cancelAll observer) := by
  refine cancelAll_invariant (Told observer first) (fun {crew} worker h => ?_) h
  have calm : Calm crew (.cancel worker) := h.silent worker
  have after := inTurn_step calm (h.inTurn worker)
  refine after.told fun stage here => ?_
  have ended := ended_step_cancel observer crew worker stage here
  cases stage with
  | ended => rfl
  | fresh | idle | assigned | waiting | settled | recorded => cases ended

theorem told_crew (request : Request) (observer : Observer) :
    Told observer request.started (request.crew observer) := by
  refine ⟨fun worker stage here => ?_, ?_⟩
  · rw [Request.fresh_of_crew here]
    rfl
  · simp [Tells, Log.tidings, Request.crew, ofCounts]

end Crew

end Preconnect
