import Preconnect.Crew

/-!
Turns: the crew on a single thread, first come first served. A worker whose turn it is goes on until
it has to wait for an attempt or comes to its end, and only then has the next one its turn.
-/
namespace Preconnect

/-- The attempts that are over as soon as they begin, with their outcomes. -/
abbrev Plan := Nat → Option Outcome

def Stage.next? (plan : Plan) (worker : Nat) : Stage → Option Action
  | ended _ => none
  | waiting attempt _ => (plan attempt).map (.finish worker)
  | fresh | idle | assigned _ | settled .. | recorded .. => some (.advance worker)

def Stage.rank : Stage → Nat
  | fresh => 2
  | idle => 1
  | assigned _ => 5
  | waiting .. => 4
  | settled .. => 3
  | recorded .. => 2
  | ended _ => 0

namespace Crew

def effort (crew : Crew) (worker : Nat) : Nat :=
  6 * crew.queue.attempts.length + (crew.stages[worker]?.map Stage.rank).getD 0

theorem queue_record (crew : Crew) (attempt : Nat) (result : Except Error Connection) :
    (crew.record attempt result).queue = crew.queue := by
  cases result <;> rfl

theorem effort_setStage_le (crew : Crew) (worker : Nat) (stage : Stage) :
    (crew.setStage worker stage).effort worker ≤
      6 * crew.queue.attempts.length + stage.rank := by
  by_cases h : worker < crew.stages.size <;> simp [effort, setStage, h]

theorem effort_step_lt (observer : Observer) (plan : Plan) {crew : Crew} {worker : Nat}
    {action : Action} (h : crew.stages[worker]?.bind (Stage.next? plan worker) = some action) :
    (crew.step observer action).effort worker < crew.effort worker := by
  obtain ⟨stage, hs, ha⟩ := Option.bind_eq_some_iff.1 h
  have he : crew.effort worker = 6 * crew.queue.attempts.length + stage.rank := by
    simp [effort, hs]
  rw [he]
  cases stage with
  | ended => cases ha
  | waiting attempt call =>
    obtain ⟨outcome, -, rfl⟩ := Option.map_eq_some_iff.1 ha
    simp only [step, hs, finish]
    exact Nat.lt_of_le_of_lt (effort_setStage_le ..) (by simp [Stage.rank])
  | fresh | assigned =>
    cases ha
    simp only [step, hs, advance]
    exact Nat.lt_of_le_of_lt (effort_setStage_le ..) (by simp [Stage.rank])
  | settled =>
    cases ha
    simp only [step, hs, advance]
    exact Nat.lt_of_le_of_lt (effort_setStage_le ..) (by simp [queue_record, Stage.rank])
  | recorded =>
    cases ha
    simp only [step, hs, advance]
    exact Nat.lt_of_le_of_lt (effort_setStage_le ..) (by split <;> simp [Stage.rank])
  | idle =>
    cases ha
    simp only [step, hs, advance, Queue.next?]
    cases hq : crew.queue.attempts with
    | nil => exact Nat.lt_of_le_of_lt (effort_setStage_le ..) (by simp [Stage.rank, hq])
    | cons =>
      refine Nat.lt_of_le_of_lt (effort_setStage_le ..) ?_
      simp only [Stage.rank, List.length_cons]
      omega

def turn (observer : Observer) (plan : Plan) (worker : Nat) (crew : Crew) : Crew :=
  match _h : crew.stages[worker]?.bind (Stage.next? plan worker) with
  | none => crew
  | some action => turn observer plan worker (crew.step observer action)
termination_by crew.effort worker
decreasing_by exact effort_step_lt observer plan _h

def turns (observer : Observer) (plan : Plan) (crew : Crew) (workers : List Nat) : Crew :=
  workers.foldl (fun crew worker => crew.turn observer plan worker) crew

/-- Puts an end to attempts in flight, in the given order. Also the workers that waited for them,
and the attempts that were not in flight. -/
def release (observer : Observer) (crew : Crew) :
    List (Nat × Outcome) → Crew × List Nat × List Nat
  | [] => (crew, [], [])
  | (attempt, outcome) :: items =>
    match crew.workerOf? attempt with
    | some worker =>
      let (crew, ready, ignored) :=
        release observer (crew.step observer (.finish worker outcome)) items
      (crew, worker :: ready, ignored)
    | none =>
      let (crew, ready, ignored) := release observer crew items
      (crew, ready, attempt :: ignored)

def cancelAll (observer : Observer) (crew : Crew) : Crew :=
  (List.range crew.stages.size).foldl (fun crew worker => crew.step observer (.cancel worker)) crew

end Crew

end Preconnect
