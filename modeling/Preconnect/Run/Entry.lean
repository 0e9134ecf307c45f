import Preconnect.Run

/-!
What a run shows after each step, and whole runs under a list of steps.
-/
namespace Preconnect

structure Entry where
  started : List Nat
  inFlight : List Nat
  conclusion : Option Conclusion
  /-- The attempts whose workers were cancelled, ascending. -/
  abandoned : List Nat
  delivered : List Event
  received : List Event
  poolCalls : List PoolCall
  dropped : List Connection
  ignored : List Nat
  traced : List Record
  /-- The number of events in the handler's channel, while someone can take them. -/
  buffered : Option Nat
  deriving DecidableEq

def Pool.recordsCalls : Pool → Bool
  | recording .. => true
  | queue _ => false

namespace Run

def entry (run : Run) (size : Nat) (response : Response) : Entry :=
  let happenings := run.crew.log.since size
  { started := happenings.filterMap Happening.began?
    inFlight := run.crew.inFlight
    conclusion := run.conclusion
    abandoned := (happenings.filterMap Happening.abandoned?).mergeSort
    delivered := response.delivered
    received := response.received
    poolCalls := if run.pool.recordsCalls then happenings.filterMap Happening.called? else []
    dropped := happenings.filterMap Happening.dropped?
    ignored := response.ignored
    traced := happenings.filterMap Happening.traced?
    buffered := run.outlet.buffered? }

def steps (run : Run) : List Step → Run × List Entry
  | [] => (run, [])
  | step :: rest =>
    let size := run.crew.log.size
    let (run, response) := run.step step
    let entry := run.entry size response
    let (run, entries) := run.steps rest
    (run, entry :: entries)

/-- A whole run, with an account of its start and of each step. -/
def play (request : Request) (level : Option Level) (plan : Plan) (pool : Pool)
    (steps : List Step) : Run × List Entry :=
  let (run, response) := Run.start request level plan pool
  let entry := run.entry 0 response
  let (run, entries) := run.steps steps
  (run, entry :: entries)

end Run

end Preconnect
