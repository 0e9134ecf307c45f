import Preconnect.Proofs.Channel

/-!
Taking and sending. What is taken from a channel is the oldest that was sent to it, so it might as
well be taken later, and whatever else is sent in the meantime makes no difference.
-/
namespace Preconnect

namespace Mailbox

variable {box : Mailbox}

theorem letIn_take_drop (box : Mailbox) {first : Nat}
    (fits : first ≤ box.capacity - box.buffer.length) :
    { box with
      buffer := box.buffer ++ box.waiting.take first
      waiting := box.waiting.drop first }.letIn = box.letIn := by
  have room : box.capacity - (box.buffer ++ box.waiting.take first).length =
      box.capacity - box.buffer.length - (box.waiting.take first).length := by
    rw [List.length_append]
    omega
  simp only [letIn, room, mk.injEq, true_and, and_true]
  rcases Nat.le_total box.waiting.length first with all | part
  · have roomy := Nat.le_trans all fits
    simp [List.take_of_length_le all, List.drop_of_length_le all, List.take_of_length_le roomy,
      List.drop_of_length_le roomy]
  · rw [List.length_take, Nat.min_eq_left part, List.append_assoc, ← List.take_add, List.drop_drop,
      Nat.add_sub_cancel' fits]
    exact ⟨rfl, rfl⟩

theorem take?_send {event : Event} {rest : Mailbox} (taken : box.take? = some (event, rest))
    (events : List Event) : (box.send events).take? = some (event, rest.send events) := by
  obtain ⟨capacity, _ | ⟨first, buffer⟩, waiting, isOpen⟩ := box
  · cases taken
  · obtain ⟨rfl, rfl⟩ := Prod.mk.inj (Option.some.inj taken)
    cases isOpen with
    | false => rfl
    | true =>
      -- What is let in before the oldest event is gone fits in all the more afterwards.
      have fits : capacity - (first :: buffer).length ≤ capacity - buffer.length :=
        Nat.sub_le_sub_left (Nat.le_succ _) capacity
      have later := letIn_take_drop ⟨capacity, buffer, waiting ++ events, true⟩ fits
      have sooner := letIn_letIn ⟨capacity, buffer, waiting, true⟩ events
      exact congrArg (fun rest => some (first, rest)) (later.trans sooner.symm)

theorem receive_length (box : Mailbox) (count : Nat) :
    box.receive (box.receive count).1.length = box.receive count := by
  induction count generalizing box with
  | zero => rfl
  | succ count ih =>
    rw [receive]
    cases taken : box.take? with
    | none => rfl
    | some taken' =>
      show box.receive ((taken'.2.receive count).1.length + 1) = _
      rw [receive, taken]
      dsimp only
      rw [ih]

theorem receive_send (box : Mailbox) (events : List Event) (count : Nat) :
    (box.send events).receive (box.receive count).1.length =
      ((box.receive count).1, (box.receive count).2.send events) := by
  induction count generalizing box with
  | zero => rfl
  | succ count ih =>
    rw [receive]
    cases taken : box.take? with
    | none => rfl
    | some taken' =>
      show (box.send events).receive ((taken'.2.receive count).1.length + 1) = _
      rw [receive, take?_send taken]
      dsimp only
      rw [ih]

end Mailbox

namespace Outlet

theorem deliver_append (outlet : Outlet) (events more : List Event) :
    outlet.deliver (events ++ more) =
      ((outlet.deliver events).1 ++ ((outlet.deliver events).2.deliver more).1,
        ((outlet.deliver events).2.deliver more).2) := by
  cases outlet with
  | nowhere | callback => rfl
  | tasks fails isRunning => cases isRunning <;> simp [deliver]
  | channel box isRunning => cases isRunning <;> simp [deliver, Mailbox.send_append]

theorem receive_length (outlet : Outlet) (count : Nat) :
    outlet.receive (outlet.receive count).1.length = outlet.receive count := by
  cases outlet with
  | nowhere | callback | tasks => rfl
  | channel box isRunning => simp [receive, box.receive_length]

/-- Taking before delivering is as good as taking the same afterwards. -/
theorem receive_deliver (outlet : Outlet) (events : List Event) (count : Nat) :
    (outlet.deliver events).2.receive (outlet.receive count).1.length =
      ((outlet.receive count).1, ((outlet.receive count).2.deliver events).2) := by
  cases outlet with
  | nowhere | callback | tasks => rfl
  | channel box isRunning =>
    cases isRunning with
    | false => simp [deliver, receive, box.receive_length]
    | true => simp [deliver, receive, box.receive_send]

theorem delivered_receive (outlet : Outlet) (events : List Event) (count : Nat) :
    ((outlet.receive count).2.deliver events).1 = (outlet.deliver events).1 := by
  cases outlet with
  | nowhere | callback | tasks | channel => rfl

theorem closeReceiver_deliver (outlet : Outlet) (events : List Event) :
    outlet.closeReceiver.deliver events =
      ((outlet.deliver events).1, (outlet.deliver events).2.closeReceiver) := by
  cases outlet with
  | nowhere | callback | tasks => rfl
  | channel box isRunning =>
    cases isRunning with
    | false => rfl
    | true => cases opened : box.isOpen <;> simp [deliver, closeReceiver, Mailbox.send, opened,
        Mailbox.close, Mailbox.letIn]

theorem isPlain_deliver (outlet : Outlet) (events : List Event) :
    (outlet.deliver events).2.isPlain = outlet.isPlain := by
  cases outlet with
  | nowhere | callback | tasks => rfl
  | channel box isRunning => cases isRunning <;> rfl

theorem isPlain_receive (outlet : Outlet) (count : Nat) :
    (outlet.receive count).2.isPlain = outlet.isPlain := by
  cases outlet with
  | nowhere | callback | tasks | channel => rfl

theorem isPlain_closeReceiver (outlet : Outlet) :
    outlet.closeReceiver.isPlain = outlet.isPlain := by
  cases outlet with
  | nowhere | callback | tasks | channel => rfl

theorem isPlain_shutdown (outlet : Outlet) : outlet.shutdown.isPlain = outlet.isPlain := by
  cases outlet with
  | nowhere | callback | tasks | channel => rfl

/-- No event waits in front of a channel that could go in. -/
def AtRest (outlet : Outlet) : Prop := (outlet.deliver []).2 = outlet

variable {outlet : Outlet}

theorem atRest_ofHandler (handler : Option Handler) : (ofHandler handler).AtRest := by
  obtain _ | _ | _ | capacity := handler
  · rfl
  · rfl
  · rfl
  · simp [AtRest, ofHandler, deliver, Mailbox.send, Mailbox.letIn]

theorem atRest_deliver (outlet : Outlet) (events : List Event) :
    (outlet.deliver events).2.AtRest := by
  have same := outlet.deliver_append events []
  rw [List.append_nil] at same
  exact (congrArg (·.2) same).symm

theorem AtRest.receive (atRest : outlet.AtRest) (count : Nat) :
    (outlet.receive count).2.AtRest := by
  have same := outlet.receive_deliver [] count
  rw [atRest, receive_length] at same
  exact (congrArg (·.2) same).symm

theorem AtRest.closeReceiver (atRest : outlet.AtRest) : outlet.closeReceiver.AtRest := by
  rw [AtRest, closeReceiver_deliver, atRest]

theorem atRest_shutdown (outlet : Outlet) : outlet.shutdown.AtRest := by
  cases outlet with
  | nowhere | callback | tasks | channel => rfl

end Outlet

namespace Run

theorem deliverSince_of_atRest {run : Run} (atRest : run.outlet.AtRest) :
    run.deliverSince run.crew.log.size = ([], run) := by
  have answer : run.outlet.deliver (run.emittedSince run.crew.log.size) = ([], run.outlet) := by
    rw [emittedSince, Log.since_size]
    exact Prod.ext run.outlet.deliver_nil atRest
  rw [deliverSince, answer]

theorem step_receive (run : Run) (atRest : run.outlet.AtRest) (count : Nat) :
    run.step (.receive count) =
      ({ run with outlet := (run.outlet.receive count).2 },
        { received := (run.outlet.receive count).1 }) := by
  have still : ({ run with outlet := (run.outlet.receive count).2 } : Run).deliverSince
      run.crew.log.size = _ := deliverSince_of_atRest (atRest.receive count)
  simp only [step, move, still]

theorem step_closeReceiver (run : Run) (atRest : run.outlet.AtRest) :
    run.step .closeReceiver = ({ run with outlet := run.outlet.closeReceiver }, {}) := by
  have still : ({ run with outlet := run.outlet.closeReceiver } : Run).deliverSince
      run.crew.log.size = _ := deliverSince_of_atRest atRest.closeReceiver
  simp only [step, move, still]

end Run

end Preconnect
