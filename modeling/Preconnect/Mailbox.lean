import Preconnect.Event

/-!
A channel with room for so many events. An event that finds no room waits in front of it; whoever
has waited longest goes in first.
-/
namespace Preconnect

structure Mailbox where
  capacity : Nat
  /-- What can be taken out, oldest first. -/
  buffer : List Event := []
  /-- What waits for room, oldest first. -/
  waiting : List Event := []
  isOpen : Bool := true

namespace Mailbox

/-- Lets waiting events in as far as there is room. -/
def letIn (box : Mailbox) : Mailbox :=
  let room := box.capacity - box.buffer.length
  { box with
    buffer := box.buffer ++ box.waiting.take room
    waiting := box.waiting.drop room }

theorem contents_letIn (box : Mailbox) :
    box.letIn.buffer ++ box.letIn.waiting = box.buffer ++ box.waiting := by
  simp [letIn]

theorem length_buffer_letIn_le (box : Mailbox) (h : box.buffer.length ≤ box.capacity) :
    box.letIn.buffer.length ≤ box.capacity := by
  simp only [letIn, List.length_append, List.length_take]
  omega

def send (box : Mailbox) (events : List Event) : Mailbox :=
  if box.isOpen then { box with waiting := box.waiting ++ events }.letIn else box

/-- Takes out the oldest event, if there is one, and lets the next one in. -/
def take? (box : Mailbox) : Option (Event × Mailbox) :=
  match box.buffer with
  | [] => none
  | event :: rest => some (event, { box with buffer := rest }.letIn)

/-- Takes out so many events, or all that come before the buffer is empty. -/
def receive (box : Mailbox) : Nat → List Event × Mailbox
  | 0 => ([], box)
  | count + 1 =>
    match box.take? with
    | none => ([], box)
    | some (event, box) =>
      let (events, box) := box.receive count
      (event :: events, box)

def close (box : Mailbox) : Mailbox :=
  { box with buffer := [], waiting := [], isOpen := false }

def loseWaiting (box : Mailbox) : Mailbox := { box with waiting := [] }

end Mailbox

end Preconnect
