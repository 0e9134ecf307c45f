import Preconnect.Proofs.Growth

/-!
The way of events to those who wait for them. While the tasks that carry events can run, an event
that was made has arrived, or it is in the handler's channel with all that were made after it.
-/
namespace Preconnect

namespace Mailbox

variable {box : Mailbox}

def contents (box : Mailbox) : List Event := box.buffer ++ box.waiting

/-- An open channel in front of which events wait only if there is no room. -/
structure Ready (box : Mailbox) : Prop where
  isOpen : box.isOpen = true
  roomy : 0 < box.capacity
  packed : box.waiting = [] ∨ box.capacity ≤ box.buffer.length

theorem ready_letIn (isOpen : box.isOpen = true) (roomy : 0 < box.capacity) :
    box.letIn.Ready := by
  refine ⟨isOpen, roomy, ?_⟩
  simp only [letIn, List.drop_eq_nil_iff, List.length_append, List.length_take]
  omega

theorem Ready.send (ready : box.Ready) (events : List Event) :
    (box.send events).Ready ∧ (box.send events).contents = box.contents ++ events := by
  rw [Mailbox.send, if_pos ready.isOpen]
  refine ⟨ready_letIn ready.isOpen ready.roomy, ?_⟩
  rw [contents, contents_letIn, contents, List.append_assoc]

theorem Ready.take? (ready : box.Ready) :
    box.take? = none ∧ box.contents = [] ∨
      ∃ event rest, box.take? = some (event, rest) ∧ rest.Ready ∧
        box.contents = event :: rest.contents := by
  unfold Mailbox.take? contents
  cases stored : box.buffer with
  | nil =>
    refine .inl ⟨rfl, ?_⟩
    have packed := ready.packed
    have roomy := ready.roomy
    rw [stored] at packed
    exact packed.resolve_right (Nat.not_le_of_lt roomy)
  | cons event buffer =>
    refine .inr ⟨event, _, rfl, ready_letIn ready.isOpen ready.roomy, ?_⟩
    rw [contents_letIn, List.cons_append]

theorem Ready.receive (ready : box.Ready) (count : Nat) :
    (box.receive count).2.Ready ∧ (box.receive count).1 = box.contents.take count ∧
      (box.receive count).2.contents = box.contents.drop count := by
  induction count generalizing box with
  | zero => exact ⟨ready, rfl, rfl⟩
  | succ count ih =>
    rw [Mailbox.receive]
    rcases ready.take? with ⟨nothing, empty⟩ | ⟨event, rest, taken, ready', split⟩
    · rw [nothing, empty]
      exact ⟨ready, rfl, rfl⟩
    · rw [taken, split]
      obtain ⟨after, received, left⟩ := ih ready'
      refine ⟨after, ?_, left⟩
      dsimp only
      rw [received, List.take_succ_cons]

end Mailbox

namespace Outlet

/-- Where the events are that were sent to a handler. A callback has those whose tasks have not
panicked. A channel has those that nobody has taken. -/
inductive Carries : Option Handler → Outlet → List Event → List Event → List Event → Prop
  | nowhere (sent : List Event) : Carries none nowhere sent [] []
  | callback (panics : Event → Option Payload) (sent : List Event) :
    Carries (some (.callback panics)) callback sent sent []
  | tasks (panics : Event → Option Payload) (panicsLater : Event → Bool) (sent : List Event) :
    Carries (some (.asyncCallback panics panicsLater))
      (tasks (fun event => (panics event).isSome || panicsLater event) true) sent
      (sent.filter fun event => !((panics event).isSome || panicsLater event)) []
  | channel (capacity : Nat) {box : Mailbox} (ready : box.Ready) (received : List Event) :
    Carries (some (.channel capacity)) (channel box true) (received ++ box.contents) [] received

variable {handler : Option Handler} {outlet : Outlet} {sent delivered received : List Event}

theorem carries_ofHandler (roomy : ∀ capacity, handler = some (.channel capacity) → 0 < capacity) :
    Carries handler (ofHandler handler) [] [] [] := by
  cases handler with
  | none => exact .nowhere []
  | some handler =>
    cases handler with
    | callback panics => exact .callback panics []
    | asyncCallback panics panicsLater => exact .tasks panics panicsLater []
    | channel capacity => exact .channel capacity ⟨rfl, roomy capacity rfl, .inl rfl⟩ []

theorem Carries.deliver (carries : Carries handler outlet sent delivered received)
    (events : List Event) :
    Carries handler (outlet.deliver events).2 (sent ++ events)
      (delivered ++ (outlet.deliver events).1) received := by
  cases carries with
  | nowhere => exact .nowhere _
  | callback panics => exact .callback panics _
  | tasks panics panicsLater =>
    have all := Carries.tasks panics panicsLater (sent ++ events)
    rwa [List.filter_append] at all
  | @channel capacity box ready =>
    obtain ⟨ready', contents⟩ := ready.send events
    have all := Carries.channel capacity ready' received
    rwa [contents, ← List.append_assoc] at all

theorem Carries.receive (carries : Carries handler outlet sent delivered received) (count : Nat) :
    Carries handler (outlet.receive count).2 sent delivered
      (received ++ (outlet.receive count).1) := by
  cases carries with
  | nowhere => exact .nowhere _
  | callback panics => exact .callback panics sent
  | tasks panics panicsLater => exact .tasks panics panicsLater sent
  | @channel capacity box ready =>
    obtain ⟨ready', taken, left⟩ := ready.receive count
    have all := Carries.channel capacity ready' (received ++ (box.receive count).1)
    rwa [left, List.append_assoc, taken, List.take_append_drop, ← taken] at all

theorem Carries.filtered {panics : Event → Option Payload} {panicsLater : Event → Bool}
    (carries : Carries (some (.asyncCallback panics panicsLater)) outlet sent delivered received) :
    delivered = sent.filter fun event => !((panics event).isSome || panicsLater event) := by
  cases carries with
  | tasks => rfl

end Outlet

/-- The step neither stops the tasks that carry events nor ends the wait for what they carry. -/
def Step.LetsPass (handler : Option Handler) : Step → Prop
  | shutdown => False
  | closeReceiver => ∀ capacity, handler ≠ some (.channel capacity)
  | finish _ | finishAll _ | wait | cancel | receive _ => True

namespace Outlet

variable {handler : Option Handler} {outlet : Outlet} {sent delivered received : List Event}

/-- What holds of an outlet from its making on stays true through a whole run: whenever events are
delivered, and in whatever else the allowed steps do to it. -/
structure Upheld (handler : Option Handler) (allowed : Step → Prop)
    (Holds : Outlet → List Event → List Event → List Event → Prop) : Prop where
  made : Holds (ofHandler handler) [] [] []
  deliver : ∀ {outlet sent delivered received} (events : List Event),
    Holds outlet sent delivered received →
      Holds (outlet.deliver events).2 (sent ++ events) (delivered ++ (outlet.deliver events).1)
        received
  receive : ∀ {outlet sent delivered received} (count : Nat),
    Holds outlet sent delivered received →
      Holds (outlet.receive count).2 sent delivered (received ++ (outlet.receive count).1)
  closeReceiver : ∀ {outlet sent delivered received}, allowed .closeReceiver →
    Holds outlet sent delivered received → Holds outlet.closeReceiver sent delivered received
  shutdown : ∀ {outlet sent delivered received}, allowed .shutdown →
    Holds outlet sent delivered received → Holds outlet.shutdown sent delivered received

theorem Carries.closeReceiver (passes : Step.closeReceiver.LetsPass handler)
    (carries : Carries handler outlet sent delivered received) :
    Carries handler outlet.closeReceiver sent delivered received := by
  cases carries with
  | nowhere => exact .nowhere sent
  | callback panics => exact .callback panics sent
  | tasks panics panicsLater => exact .tasks panics panicsLater sent
  | channel capacity => exact absurd rfl (passes capacity)

theorem upheld_carries (roomy : ∀ capacity, handler = some (.channel capacity) → 0 < capacity) :
    Upheld handler (Step.LetsPass handler) (Carries handler) where
  made := carries_ofHandler roomy
  deliver events carries := carries.deliver events
  receive count carries := carries.receive count
  closeReceiver passes carries := carries.closeReceiver passes
  shutdown passes := passes.elim

end Outlet

theorem Log.view_since {log later : Log} {α : Type} (grows : log.Grows later)
    (find : Happening → Option α) :
    later.view find = log.view find ++ (later.since log.size).filterMap find := by
  obtain ⟨more, same⟩ := grows
  have size : log.size = log.toList.length := Array.length_toList.symm
  rw [since_eq_drop, view, ← same, size, List.drop_left, List.filterMap_append, view]

namespace Run

open Outlet

variable {handler : Option Handler} {allowed : Step → Prop}
  {Holds : Outlet → List Event → List Event → List Event → Prop} {run : Run}
  {sent delivered received : List Event}

theorem outlet_settle (run : Run) : run.settle.outlet = run.outlet := by
  unfold settle
  split <;> rfl

theorem outlet_cancel (run : Run) : run.cancel.outlet = run.outlet := by
  unfold cancel
  split <;> rfl

theorem outlet_begin (run : Run) : run.begin.outlet = run.outlet := by
  cases panics : run.observer.panic? run.request.started with
  | some payload => rw [begin_refused run panics]
  | none =>
    rw [begin_proceeds run panics]
    exact outlet_settle _

/-- Before anything new is sent, a step may take something out of the channel. -/
theorem upheld_move (upheld : Upheld handler allowed Holds) {step : Step} (may : allowed step)
    (holds : Holds run.outlet sent delivered received) :
    Holds (run.move step).1.outlet sent delivered (received ++ (run.move step).2.received) := by
  have same : Holds run.outlet sent delivered (received ++ []) := by rwa [List.append_nil]
  cases step with
  | finish | finishAll =>
    show Holds (settle _).outlet sent delivered (received ++ [])
    rwa [outlet_settle]
  | wait => exact same
  | cancel =>
    show Holds run.cancel.outlet sent delivered (received ++ [])
    rwa [outlet_cancel]
  | shutdown =>
    show Holds (settle _).outlet sent delivered (received ++ [])
    rw [outlet_settle]
    exact upheld.shutdown may same
  | receive count => exact upheld.receive count holds
  | closeReceiver => exact upheld.closeReceiver may same

theorem upheld_step (upheld : Upheld handler allowed Holds) {step : Step} (may : allowed step)
    (holds : Holds run.outlet run.crew.log.events delivered received) :
    Holds (run.step step).1.outlet (run.step step).1.crew.log.events
      (delivered ++ (run.step step).2.delivered) (received ++ (run.step step).2.received) := by
  have sent := Log.view_since (grows_move run step) Happening.emitted?
  have after := upheld.deliver ((run.move step).1.emittedSince run.crew.log.size)
    (upheld_move upheld may holds)
  show Holds _ ((run.move step).1.crew.log.view Happening.emitted?) _ _
  rw [sent]
  exact after

theorem upheld_steps (upheld : Upheld handler allowed Holds) {steps : List Step}
    (may : ∀ step ∈ steps, allowed step)
    (holds : Holds run.outlet run.crew.log.events delivered received) :
    Holds (run.steps steps).1.outlet (run.steps steps).1.crew.log.events
      (delivered ++ (run.steps steps).2.flatMap (·.delivered))
      (received ++ (run.steps steps).2.flatMap (·.received)) := by
  induction steps generalizing run delivered received with
  | nil =>
    show Holds run.outlet run.crew.log.events (delivered ++ []) (received ++ [])
    rwa [List.append_nil, List.append_nil]
  | cons step rest ih =>
    obtain ⟨first, others⟩ := List.forall_mem_cons.1 may
    have after := ih others (upheld_step upheld first holds)
    rwa [List.append_assoc, List.append_assoc] at after

theorem upheld_start {request : Request} (upheld : Upheld request.handler allowed Holds)
    (level : Option Level) (plan : Plan) (pool : Pool) :
    Holds (start request level plan pool).1.outlet
      (start request level plan pool).1.crew.log.events
      (start request level plan pool).2.delivered (start request level plan pool).2.received := by
  have first (run : Run) (untouched : run.outlet = ofHandler request.handler) :
      Holds (run.deliverSince 0).2.outlet run.crew.log.events (run.deliverSince 0).1 [] := by
    have sent : run.emittedSince 0 = run.crew.log.events := by
      rw [emittedSince, Log.since_eq_drop, List.drop_zero]
      rfl
    have after := upheld.deliver run.crew.log.events upheld.made
    rw [deliverSince, sent, untouched]
    exact after
  cases valid : request.invalid? with
  | some error =>
    simp only [start, valid]
    exact first _ rfl
  | none =>
    simp only [start, valid]
    exact first _ (outlet_begin _)

theorem upheld_play {request : Request} (upheld : Upheld request.handler allowed Holds)
    (level : Option Level) (plan : Plan) (pool : Pool) {steps : List Step}
    (may : ∀ step ∈ steps, allowed step) :
    Holds (play request level plan pool steps).1.outlet
      (play request level plan pool steps).1.crew.log.events
      ((play request level plan pool steps).2.flatMap (·.delivered))
      ((play request level plan pool steps).2.flatMap (·.received)) :=
  upheld_steps upheld may (upheld_start upheld level plan pool)

/-- As long as the tasks that carry events can run, no event of a run gets lost. -/
theorem carries_play {request : Request} (level : Option Level) (plan : Plan) (pool : Pool)
    {steps : List Step}
    (roomy : ∀ capacity, request.handler = some (.channel capacity) → 0 < capacity)
    (passes : ∀ step ∈ steps, step.LetsPass request.handler) :
    Carries request.handler (play request level plan pool steps).1.outlet
      (play request level plan pool steps).1.crew.log.events
      ((play request level plan pool steps).2.flatMap (·.delivered))
      ((play request level plan pool steps).2.flatMap (·.received)) :=
  upheld_play (upheld_carries roomy) level plan pool passes

end Run

end Preconnect
