import Preconnect.Error.Display
import Preconnect.Event

/-!
Tracing records. Every event has a record with the event's own values; workers have records of
their own for how they begin and end.
-/
namespace Preconnect

inductive Level
  | error | warn | info | debug | trace
  deriving DecidableEq, Inhabited

namespace Level

def detail : Level → Nat
  | error => 0
  | warn => 1
  | info => 2
  | debug => 3
  | trace => 4

def admits (limit level : Level) : Bool :=
  level.detail ≤ limit.detail

def name : Level → String
  | error => "ERROR"
  | warn => "WARN"
  | info => "INFO"
  | debug => "DEBUG"
  | trace => "TRACE"

end Level

/-- What a field of a record holds. A measured time has no value that could be foretold. -/
inductive FieldValue
  | text (value : String)
  | number (value : Nat)
  | flag (value : Bool)
  | elapsed
  deriving DecidableEq, Inhabited

structure Record where
  level : Level
  message : String
  fields : List (String × FieldValue)
  deriving DecidableEq

def poolField (pool : Option String) : List (String × FieldValue) :=
  pool.toList.map fun name => ("poolName", .text name)

def ClosedReason.explanation : ClosedReason → String
  | warmupFailed =>
    "Another connection attempt failed during a fail-fast warm-up, " ++
      "so every connection established by the warm-up was discarded"

namespace Notice

def message : Notice → String
  | started .. => "Connection pool warm-up started"
  | established _ => "Connection established"
  | attemptFailed .. => "Connection attempt failed"
  | closed _ => "Connection closed"
  | succeeded .. => "Connection pool warm-up succeeded"
  | failed .. => "Connection pool warm-up failed"

def fields : Notice → List (String × FieldValue)
  | started target workers failFast =>
    [("targetCount", .number target.toNat), ("workerCount", .number workers.toNat),
      ("failFast", .flag failFast)]
  | established attempt => [("attempt", .number attempt), ("durationMS", .elapsed)]
  | attemptFailed attempt error =>
    [("attempt", .number attempt), ("error", .text error.display), ("durationMS", .elapsed)]
  | closed attempt =>
    [("attempt", .number attempt), ("reason", .text ClosedReason.warmupFailed.explanation)]
  | succeeded kept lost =>
    [("established", .number kept.toNat), ("failed", .number lost.toNat),
      ("durationMS", .elapsed)]
  | failed failure count =>
    [("failure", .text failure.display), ("closed", .number count.toNat),
      ("durationMS", .elapsed)]

end Notice

def Event.record (event : Event) : Record :=
  ⟨.debug, event.notice.message, poolField event.pool ++ event.notice.fields⟩

namespace Record

def workerStarted (worker : Nat) : Record :=
  ⟨.trace, "Warm-up worker started", [("workerId", .number worker)]⟩

def workerStopped (worker : Nat) : Record :=
  ⟨.trace, "Warm-up worker stopped", [("workerId", .number worker)]⟩

def workerTerminated (worker : Nat) (mishap : Mishap) : Record :=
  ⟨.warn, "Warm-up worker terminated abnormally",
    [("workerId", .number worker), ("error", .text (Error.mk (.internal mishap)).display)]⟩

end Record

end Preconnect
