import Preconnect.Event

/-!
Handlers of events. A handler is known by what its calls do to the caller, which is to return or
to panic, and by the way an event takes after the call.
-/
namespace Preconnect

/-- What is to be done with events: call a function, call one whose answer is a task to be run
later, or send them down a channel with room for so many. -/
inductive Handler
  | callback (panics : Event → Option Payload)
  | asyncCallback (panics : Event → Option Payload) (panicsLater : Event → Bool)
  | channel (capacity : Nat)

def Handler.panic? : Handler → Event → Option Payload
  | callback panics, event | asyncCallback panics _, event => panics event
  | channel _, _ => none

/-- A rule by which a callback panics: at events of a name, perhaps of one attempt only. -/
structure PanicRule where
  event : String
  attempt : Option Nat
  payload : Option Payload

namespace PanicRule

def applies (rule : PanicRule) (notice : Notice) : Bool :=
  rule.event == notice.name && (rule.attempt.isNone || rule.attempt == notice.attempt?)

def first? (rules : List PanicRule) (event : Event) : Option Payload :=
  (rules.find? (·.applies event.notice)).map fun rule =>
    rule.payload.getD (.text ("handler: " ++ event.notice.name))

end PanicRule

end Preconnect
