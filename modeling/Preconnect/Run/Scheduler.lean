import Preconnect.Run

/-!
The run queue of a runtime with a single thread. Workers, the warm-up that waits for them and the
tasks that carry events have their turns in the order in which they got ready, and somebody may take
events from the handler's channel between any two turns.
-/
namespace Preconnect

inductive Task
  | worker (worker : Nat)
  /-- The warm-up itself, which waits for its workers. -/
  | warmUp
  /-- Carries an event to where the handler wants it. -/
  | carrier (event : Event)

structure Scheduler where
  run : Run
  /-- What is ready for a turn, oldest first. -/
  ready : List Task := []
  /-- The events that have reached a callback. -/
  delivered : List Event := []
  /-- The events that have been taken from a channel. -/
  received : List Event := []

namespace Scheduler

def spawn (scheduler : Scheduler) (tasks : List Task) : Scheduler :=
  { scheduler with ready := scheduler.ready ++ tasks }

def deliver (scheduler : Scheduler) (events : List Event) : Scheduler :=
  let (delivered, outlet) := scheduler.run.outlet.deliver events
  { scheduler with
    run := { scheduler.run with outlet }
    delivered := scheduler.delivered ++ delivered }

/-- Passes the events on that were emitted since the log had the given size. A plain callback has
them at once, any other handler needs a task for each of them. -/
def emitSince (scheduler : Scheduler) (size : Nat) : Scheduler :=
  let events := scheduler.run.emittedSince size
  if scheduler.run.outlet.isPlain then scheduler.deliver events
  else scheduler.spawn (events.map .carrier)

def work (scheduler : Scheduler) (worker : Nat) : Scheduler :=
  let run := scheduler.run
  { scheduler with run := { run with crew := run.crew.turn run.observer run.plan worker } }

/-- Gives a worker its turn. A warm-up is woken by every worker that ends, although it waits for all
of them. -/
def turn (scheduler : Scheduler) (worker : Nat) : Scheduler :=
  let later := (scheduler.work worker).emitSince scheduler.run.crew.log.size
  if (scheduler.work worker).run.crew.stages[worker]?.any Stage.hasEnded then later.spawn [.warmUp]
  else later

def settle (scheduler : Scheduler) : Scheduler :=
  { scheduler with run := scheduler.run.settle }.emitSince scheduler.run.crew.log.size

def poll (scheduler : Scheduler) : Scheduler :=
  match scheduler.ready with
  | [] => scheduler
  | .worker worker :: ready => { scheduler with ready }.turn worker
  | .warmUp :: ready => { scheduler with ready }.settle
  | .carrier event :: ready => { scheduler with ready }.deliver [event]

def receive (scheduler : Scheduler) (count : Nat) : Scheduler :=
  let (received, outlet) := scheduler.run.outlet.receive count
  { scheduler with
    run := { scheduler.run with outlet }
    received := scheduler.received ++ received }

def closeReceiver (scheduler : Scheduler) : Scheduler :=
  { scheduler with
    run := { scheduler.run with outlet := scheduler.run.outlet.closeReceiver } }

def finish (scheduler : Scheduler) (items : List (Nat × Outcome)) : Scheduler :=
  let run := scheduler.run
  let (crew, ready, _) := run.crew.release run.observer items
  { scheduler with run := { run with crew } }.spawn (ready.map .worker)

/-- Carries out a decision: who can go on is ready, but has no turn yet. -/
def decide (scheduler : Scheduler) (step : Step) : Scheduler :=
  let run := scheduler.run
  match step with
  | .finish items => scheduler.finish items
  | .finishAll outcome =>
    scheduler.finish (run.crew.inFlight.map fun attempt => (attempt, outcome attempt))
  | .wait => scheduler
  | .cancel => { scheduler with run := run.cancel }
  | .shutdown =>
    let crew := run.crew.cancelAll run.observer
    { scheduler with run := { run with crew, outlet := run.outlet.shutdown } }.spawn [.warmUp]
  | .receive count => scheduler.receive count
  | .closeReceiver => scheduler.closeReceiver

def start (request : Request) (level : Option Level) (plan : Plan) (pool : Pool) : Scheduler :=
  let run := Run.ofRequest request level plan pool
  match request.invalid? with
  | some error => { run := { run with conclusion := some (.failed error) } }
  | none =>
    let (run, ready) := run.announce
    ({ run } : Scheduler).emitSince 0 |>.spawn (ready.map .worker)

end Scheduler

end Preconnect
