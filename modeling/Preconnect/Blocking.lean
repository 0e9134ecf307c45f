import Preconnect.Json.Write
import Preconnect.Run.Entry

/-!
Warm-ups by blocking calls on threads of their own. An attempt goes as the call goes that it is made
by, and calls are numbered as they begin. With several workers the threads race; the attempts are
then finished lowest first, and only what no race can change is reported.
-/
namespace Preconnect

def Request.hasRaces (request : Request) : Bool :=
  request.fault?.isNone && 1 < request.effectiveWorkers

/-- Waiting for a thread gives the value that its function has come to. Only a thread that is
cancelled has none, and nobody cancels those of a warm-up. -/
def awaitThread {α : Type} (value : α) : Except Error α := .ok value

/-- How an attempt goes that is made by a call on a thread. A panic of the call is caught on the
thread, so that the thread has a result to hand over whichever way the call goes. -/
def Outcome.onThread (call : Outcome) : Outcome :=
  match (awaitThread call.result).bind id with
  | .ok connection => .ok connection
  | .error error => .fail error

theorem Outcome.result_onThread (call : Outcome) : call.onThread.result = call.result := by
  cases call <;> rfl

namespace Run

def lowestInFlight? (run : Run) : Option (Nat × Nat) :=
  run.crew.stages.foldl (fun lowest stage =>
    match stage, lowest with
    | .waiting attempt call, some (least, _) =>
      if attempt < least then some (attempt, call) else lowest
    | .waiting attempt call, none => some (attempt, call)
    | _, _ => lowest) none

def finishLowest (outcomes : Nat → Outcome) : Nat → Run → Run
  | 0, run => run
  | count + 1, run =>
    match run.lowestInFlight? with
    | some (attempt, call) =>
      finishLowest outcomes count (run.finish [(attempt, (outcomes call).onThread)]).1
    | none => run

/-- A warm-up whose calls go as the outcomes say. No run has more calls than its target. -/
def blocking (request : Request) (level : Option Level) (outcomes : Nat → Outcome) (pool : Pool) :
    Run :=
  (start request level (fun _ => none) pool).1.finishLowest outcomes request.target.toNat

def blockingEntry (run : Run) : Entry :=
  run.entry 0 { delivered := (run.deliverSince 0).1 }

end Run

def tally (texts : List String) : List (String × Nat) :=
  texts.eraseDups.map fun text => (text, texts.count text)

def sortedByText {α : Type} (text : α → String) (xs : List α) : List α :=
  xs.mergeSort fun a b => text a ≤ text b

def PoolCall.text : PoolCall → String
  | accept connection => "[\"accept\"," ++ Json.writeText connection ++ "]"
  | close connection => "[\"close\"," ++ Json.writeText connection ++ "]"

def Pool.sorted : Pool → Pool
  | queue connections => queue (sortedByText id connections.toList).toArray
  | pool => pool

/-- What no race between workers can change. -/
structure RaceFree where
  counts : List (String × Nat)
  errors : List String
  poolCalls : List PoolCall
  dropped : List Connection
  pool : Pool

def Run.raceFree (run : Run) : RaceFree :=
  let entry := run.blockingEntry
  { counts := tally (entry.delivered.map (·.notice.name) ++ entry.traced.map (·.message))
    errors := sortedByText id <| entry.delivered.filterMap fun event =>
      match event.notice with
      | .attemptFailed _ error => some error.display
      | _ => none
    poolCalls := sortedByText PoolCall.text entry.poolCalls
    dropped := sortedByText id entry.dropped
    pool := run.pool.sorted }

end Preconnect
