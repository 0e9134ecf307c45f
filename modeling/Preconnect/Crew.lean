import Preconnect.Crew.Arrivals
import Preconnect.Crew.FirstFailure
import Preconnect.Crew.Queue
import Preconnect.Observer

/-!
A crew: the workers of a warm-up and what they share. A worker takes an attempt from the queue,
calls the establisher, waits, records the result, tells the observers, and starts over. Each of
these is one step, so that the steps of different workers can follow one another in any order.
-/
namespace Preconnect

inductive Ending
  /-- It found no attempt left. -/
  | stopped
  | panicked (payload : Payload)
  | cancelled
  deriving DecidableEq

def Ending.mishap? : Ending → Option Mishap
  | stopped => none
  | panicked payload => some (.workerPanicked payload)
  | cancelled => some .workerCancelled

inductive Stage
  /-- It has not had its first turn. -/
  | fresh
  | idle
  | assigned (attempt : Nat)
  /-- It waits for an attempt in flight, the establisher's call of the given number. -/
  | waiting (attempt call : Nat)
  /-- The attempt is over but not recorded. -/
  | settled (attempt : Nat) (result : Except Error Connection)
  /-- The result is recorded but the observers have not been told. -/
  | recorded (attempt : Nat) (result : Except Error Connection)
  | ended (ending : Ending)
  deriving DecidableEq

namespace Stage

def held? : Stage → Option Nat
  | assigned attempt | waiting attempt _ | settled attempt _ => some attempt
  | fresh | idle | recorded .. | ended _ => none

def inFlight? : Stage → Option Nat
  | waiting attempt _ => some attempt
  | _ => none

def ending? : Stage → Option Ending
  | ended ending => some ending
  | _ => none

def hasEnded (stage : Stage) : Bool := stage.ending?.isSome

def mishap? (stage : Stage) : Option Mishap := stage.ending?.bind Ending.mishap?

end Stage

structure Crew where
  queue : Queue
  stages : Array Stage
  arrivals : Arrivals := {}
  firstFailure : FirstFailure := {}
  calls : Nat := 0
  log : Log := {}

inductive Action
  /-- The worker does what is next for it, unless it waits or has ended. -/
  | advance (worker : Nat)
  /-- The attempt that the worker waits for is over. -/
  | finish (worker : Nat) (outcome : Outcome)
  | cancel (worker : Nat)

namespace Crew

def ofCounts (target workers : Nat) (log : Log) : Crew where
  queue := .ofTarget target
  stages := Array.replicate workers .fresh
  log := log

def setStage (crew : Crew) (worker : Nat) (stage : Stage) : Crew :=
  { crew with stages := crew.stages.setIfInBounds worker stage }

def record (crew : Crew) (attempt : Nat) (result : Except Error Connection) : Crew :=
  match result with
  | .ok connection => { crew with arrivals := crew.arrivals.append ⟨attempt, connection⟩ }
  | .error error => { crew with firstFailure := (crew.firstFailure.offer ⟨attempt, error⟩).1 }

end Crew

def Notice.ofResult (attempt : Nat) : Except Error Connection → Notice
  | .ok _ => established attempt
  | .error error => attemptFailed attempt error

namespace Crew

def advance (observer : Observer) (worker : Nat) (stage : Stage) (crew : Crew) : Crew :=
  match stage with
  | .fresh =>
    { crew with log := observer.trace crew.log (.workerStarted worker) }.setStage worker .idle
  | .idle =>
    match crew.queue.next? with
    | some (attempt, queue) => { crew with queue }.setStage worker (.assigned attempt)
    | none =>
      { crew with log := observer.trace crew.log (.workerStopped worker) }.setStage worker
        (.ended .stopped)
  | .assigned attempt =>
    { crew with
      calls := crew.calls + 1
      log := crew.log.add (.began worker attempt) }.setStage worker (.waiting attempt crew.calls)
  | .settled attempt result =>
    ({ crew with log := crew.log.add (.finished worker attempt result) }.record attempt
      result).setStage worker (.recorded attempt result)
  | .recorded attempt result =>
    let notice := Notice.ofResult attempt result
    { crew with log := observer.emit crew.log notice }.setStage worker
      (match observer.panic? notice with
      | some payload => .ended (.panicked payload)
      | none => .idle)
  | .waiting .. | .ended _ => crew

def finish (worker : Nat) (outcome : Outcome) (stage : Stage) (crew : Crew) : Crew :=
  match stage with
  | .waiting attempt _ => crew.setStage worker (.settled attempt outcome.result)
  | _ => crew

/-- The worker is stopped where it stands. An attempt that it holds gets no result. -/
def cancel (worker : Nat) (stage : Stage) (crew : Crew) : Crew :=
  match stage with
  | .ended _ => crew
  | stage =>
    { crew with
      log := match stage.held? with
        | some attempt => crew.log.add (.abandoned worker attempt)
        | none => crew.log }.setStage worker (.ended .cancelled)

/-- Carries out one step. A worker that does not exist takes none. -/
def step (observer : Observer) (crew : Crew) (action : Action) : Crew :=
  match action with
  | .advance worker =>
    match crew.stages[worker]? with
    | some stage => crew.advance observer worker stage
    | none => crew
  | .finish worker outcome =>
    match crew.stages[worker]? with
    | some stage => crew.finish worker outcome stage
    | none => crew
  | .cancel worker =>
    match crew.stages[worker]? with
    | some stage => crew.cancel worker stage
    | none => crew

def run (observer : Observer) (crew : Crew) (actions : List Action) : Crew :=
  actions.foldl (step observer) crew

def isOver (crew : Crew) : Bool := crew.stages.all Stage.hasEnded

def inFlight (crew : Crew) : List Nat :=
  (crew.stages.toList.filterMap Stage.inFlight?).mergeSort

def workerOf? (crew : Crew) (attempt : Nat) : Option Nat :=
  crew.stages.findIdx? fun stage => stage.inFlight? == some attempt

end Crew

end Preconnect
