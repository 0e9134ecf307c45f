import Preconnect.Handler
import Preconnect.Mailbox

/-!
The way of an event after the handler's call has returned. A plain callback has it at once; an
asynchronous one and a channel depend on tasks, which stop when their runtime is shut down.
-/
namespace Preconnect

inductive Outlet
  | nowhere
  | callback
  /-- Each event is handled by a task of its own, unless the call panics, or later the task. -/
  | tasks (fails : Event → Bool) (isRunning : Bool)
  | channel (box : Mailbox) (isRunning : Bool)

namespace Outlet

def ofHandler : Option Handler → Outlet
  | none => nowhere
  | some (.callback _) => callback
  | some (.asyncCallback panics panicsLater) =>
    tasks (fun event => (panics event).isSome || panicsLater event) true
  | some (.channel capacity) => channel { capacity } true

/-- Whether no task is needed for events to arrive, if they arrive anywhere. -/
def isPlain : Outlet → Bool
  | nowhere | callback => true
  | tasks .. | channel .. => false

/-- Sends events on their way. Also the events that have reached a callback by then. -/
def deliver (outlet : Outlet) (events : List Event) : List Event × Outlet :=
  match outlet with
  | nowhere => ([], outlet)
  | callback => (events, outlet)
  | tasks fails isRunning =>
    (if isRunning then events.filter fun event => !fails event else [], outlet)
  | channel box isRunning =>
    ([], if isRunning then channel (box.send events) isRunning else outlet)

def receive (outlet : Outlet) (count : Nat) : List Event × Outlet :=
  match outlet with
  | channel box isRunning =>
    let (events, box) := box.receive count
    (events, channel box isRunning)
  | _ => ([], outlet)

def closeReceiver : Outlet → Outlet
  | channel box isRunning => channel box.close isRunning
  | outlet => outlet

def shutdown : Outlet → Outlet
  | tasks fails _ => tasks fails false
  | channel box _ => channel box.loseWaiting false
  | outlet => outlet

def buffered? : Outlet → Option Nat
  | channel box _ => if box.isOpen then some box.buffer.length else none
  | _ => none

end Outlet

end Preconnect
