import Preconnect.Error
import Preconnect.Handler
import Preconnect.Text.Outline
import Preconnect.Text.Quoted

/-!
Requests for a warm-up: how many connections, by how many workers, and what a failure means.
-/
namespace Preconnect

structure Request where
  target : UInt32
  workers : UInt32
  /-- Whether one failed attempt fails the warm-up. -/
  failFast : Bool := true
  poolName : Option String := none
  handler : Option Handler := none

namespace Request

/-- What is wrong with the counts; the target is looked at first. -/
def fault? (request : Request) : Option InvalidArgument :=
  if request.target = 0 then some .noTarget
  else if request.workers = 0 then some .noWorkers
  else none

def invalid? (request : Request) : Option Error :=
  request.fault?.map fun fault => ⟨.invalidArgument fault⟩

def effectiveWorkers (request : Request) : UInt32 :=
  min request.target request.workers

open Text (Outline quoted)

def outline (request : Request) : Outline :=
  .record "WarmupRequest"
    [("target_count", .leaf (toString request.target)),
      ("worker_count", .leaf (toString request.workers)),
      ("fail_fast", .leaf (if request.failFast then "true" else "false")),
      ("pool_name", .optional (request.poolName.map fun name => .leaf (quoted name))),
      ("event_handler", .optional (request.handler.map fun _ => .leaf "EventHandler"))]

end Request

end Preconnect
