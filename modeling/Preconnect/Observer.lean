import Preconnect.Log
import Preconnect.Request

/-!
Those who watch a warm-up: a collector of tracing records and a handler of events. An event is only
made if one of them wants it, and is traced before the handler is called.
-/
namespace Preconnect

structure Observer where
  pool : Option String := none
  /-- The most detailed level that is collected, if any is. -/
  level : Option Level := none
  handler : Option Handler := none

namespace Observer

def ofRequest (request : Request) (level : Option Level) : Observer :=
  ⟨request.poolName, level, request.handler⟩

def collects (observer : Observer) (level : Level) : Bool :=
  observer.level.any (·.admits level)

def wantsEvents (observer : Observer) : Bool :=
  observer.handler.isSome || observer.collects .debug

def trace (observer : Observer) (log : Log) (record : Record) : Log :=
  if observer.collects record.level then log.add (.traced record) else log

def event (observer : Observer) (notice : Notice) : Event := ⟨observer.pool, notice⟩

def panic? (observer : Observer) (notice : Notice) : Option Payload :=
  observer.handler.bind (·.panic? (observer.event notice))

def emit (observer : Observer) (log : Log) (notice : Notice) : Log :=
  if observer.wantsEvents then
    (observer.trace log (observer.event notice).record).add (.emitted (observer.event notice))
  else log

end Observer

end Preconnect
