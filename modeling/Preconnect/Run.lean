import Preconnect.Crew.Turn
import Preconnect.Outlet
import Preconnect.Settlement

/-!
One warm-up from its start to its conclusion, on a single thread and under the control of whoever
decides when the attempts in flight are over. After each such decision everything runs on until
nothing can.
-/
namespace Preconnect

/-- A decision from outside. -/
inductive Step
  /-- The attempts are over, in this order. -/
  | finish (items : List (Nat × Outcome))
  /-- All attempts in flight are over, in ascending order. -/
  | finishAll (outcome : Nat → Outcome)
  | wait
  /-- The warm-up is given up. -/
  | cancel
  /-- The runtime of the workers and of the handler's tasks is shut down. -/
  | shutdown
  /-- So many events are taken from the handler's channel. -/
  | receive (count : Nat)
  | closeReceiver

structure Run where
  request : Request
  observer : Observer
  plan : Plan
  crew : Crew
  pool : Pool
  outlet : Outlet
  conclusion : Option Conclusion := none

structure Response where
  /-- Attempts that could not be finished, as they were not in flight. -/
  ignored : List Nat := []
  delivered : List Event := []
  received : List Event := []

namespace Run

def settle (run : Run) : Run :=
  if run.conclusion.isNone && run.crew.isOver then
    let (crew, pool, conclusion) := run.crew.settle run.request run.observer run.pool
    { run with crew, pool, conclusion := some conclusion }
  else run

/-- Gives workers their turns, and concludes if none is left afterwards. -/
def proceed (run : Run) (workers : List Nat) : Run :=
  { run with crew := run.crew.turns run.observer run.plan workers }.settle

def announce (run : Run) : Run × List Nat :=
  let workers := run.request.effectiveWorkers
  let notice := Notice.started run.request.target workers run.request.failFast
  let log := run.observer.emit run.crew.log notice
  match run.observer.panic? notice with
  | some payload =>
    ({ run with crew := { run.crew with log }, conclusion := some (.panicked payload) }, [])
  | none =>
    ({ run with crew := .ofCounts run.request.target.toNat workers.toNat log },
      List.range workers.toNat)

/-- Begins a valid warm-up: once the observers know, all workers have their first turns. -/
def begin (run : Run) : Run :=
  let (run, ready) := run.announce
  run.proceed ready

def finish (run : Run) (items : List (Nat × Outcome)) : Run × List Nat :=
  let (crew, ready, ignored) := run.crew.release run.observer items
  ({ run with crew }.proceed ready, ignored)

/-- Gives the warm-up up: the workers are cancelled and the connections are dropped. -/
def cancel (run : Run) : Run :=
  if run.conclusion.isNone then
    let crew := run.crew.cancelAll run.observer
    let (connections, arrivals) := crew.arrivals.drain
    { run with
      crew := { crew with arrivals, log := crew.log.drop (connections.map (·.connection)) }
      conclusion := some .cancelled }
  else run

/-- Shuts the runtime down: without its workers, the warm-up concludes. -/
def shutdown (run : Run) : Run :=
  { run with crew := run.crew.cancelAll run.observer, outlet := run.outlet.shutdown }.settle

def emittedSince (run : Run) (size : Nat) : List Event :=
  (run.crew.log.since size).filterMap Happening.emitted?

def deliverSince (run : Run) (size : Nat) : List Event × Run :=
  let (delivered, outlet) := run.outlet.deliver (run.emittedSince size)
  (delivered, { run with outlet })

def ofRequest (request : Request) (level : Option Level) (plan : Plan) (pool : Pool) : Run where
  request := request
  observer := .ofRequest request level
  plan := plan
  crew := .ofCounts 0 0 {}
  pool := pool
  outlet := .ofHandler request.handler

/-- Starts a warm-up. A request that cannot be carried out touches nothing. -/
def start (request : Request) (level : Option Level) (plan : Plan) (pool : Pool) :
    Run × Response :=
  let run := ofRequest request level plan pool
  let run := match request.invalid? with
    | some error => { run with conclusion := some (.failed error) }
    | none => run.begin
  let (delivered, run) := run.deliverSince 0
  (run, { delivered })

def move (run : Run) : Step → Run × Response
  | .finish items =>
    let (run, ignored) := run.finish items
    (run, { ignored })
  | .finishAll outcome =>
    let items := run.crew.inFlight.map fun attempt => (attempt, outcome attempt)
    let (run, ignored) := run.finish items
    (run, { ignored })
  | .wait => (run, {})
  | .cancel => (run.cancel, {})
  | .shutdown => (run.shutdown, {})
  | .receive count =>
    let (received, outlet) := run.outlet.receive count
    ({ run with outlet }, { received })
  | .closeReceiver => ({ run with outlet := run.outlet.closeReceiver }, {})

/-- Carries out a step and delivers what was emitted in it. -/
def step (run : Run) (step : Step) : Run × Response :=
  let size := run.crew.log.size
  let (run, response) := run.move step
  let (delivered, run) := run.deliverSince size
  (run, { response with delivered })

end Run

end Preconnect
