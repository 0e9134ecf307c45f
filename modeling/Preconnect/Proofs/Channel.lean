import Preconnect.Proofs.Aftermath

/-!
The channel of a handler. Every event is sent by a task of its own, and the tasks wait in front of
the channel in the order in which they were spawned. As long as these tasks can run and there is
someone to take the events, nothing is lost, doubled or overtaken on the way.
-/
namespace Preconnect

/-- What happens at a channel: the task of an event sends it, or someone takes an event. -/
inductive Errand
  | post (event : Event)
  | take

def Errand.posted? : Errand → Option Event
  | post event => some event
  | take => none

namespace Mailbox

variable {box : Mailbox} {capacity : Nat}

def attend (box : Mailbox) : List Errand → List Event × Mailbox
  | [] => ([], box)
  | .post event :: errands => (box.send [event]).attend errands
  | .take :: errands =>
    match box.take? with
    | none => box.attend errands
    | some (event, box) =>
      let (events, box) := box.attend errands
      (event :: events, box)

theorem attend_append (box : Mailbox) (errands later : List Errand) :
    box.attend (errands ++ later) =
      ((box.attend errands).1 ++ ((box.attend errands).2.attend later).1,
        ((box.attend errands).2.attend later).2) := by
  induction errands generalizing box with
  | nil => rfl
  | cons errand errands ih =>
    cases errand with
    | post event => exact ih _
    | take =>
      simp only [List.cons_append, attend]
      cases box.take? with
      | none => exact ih box
      | some taken =>
        simp only [ih]
        rfl

theorem letIn_letIn (box : Mailbox) (more : List Event) :
    { box.letIn with waiting := box.letIn.waiting ++ more }.letIn =
      { box with waiting := box.waiting ++ more }.letIn := by
  have room : box.capacity - (box.buffer ++ box.waiting.take
      (box.capacity - box.buffer.length)).length =
        box.capacity - box.buffer.length - box.waiting.length := by
    rw [List.length_append, List.length_take]
    omega
  simp only [letIn, room, mk.injEq, true_and, and_true]
  rcases Nat.le_total box.waiting.length (box.capacity - box.buffer.length) with fits | full
  · simp [List.take_append, List.drop_append, List.take_of_length_le fits,
      List.drop_of_length_le fits]
  · simp [List.take_append, List.drop_append, Nat.sub_eq_zero_of_le full]

theorem send_append (box : Mailbox) (events more : List Event) :
    (box.send events).send more = box.send (events ++ more) := by
  cases opened : box.isOpen with
  | false => simp [send, opened]
  | true =>
    have stays : { box with waiting := box.waiting ++ events }.letIn.isOpen = true := opened
    rw [send, send, if_pos opened, if_pos stays, send, if_pos opened, letIn_letIn,
      List.append_assoc]

theorem Ready.send_nil (ready : box.Ready) : box.send [] = box := by
  have same : box.letIn = box := by
    rcases ready.packed with empty | full
    · rw [letIn, empty, List.take_nil, List.drop_nil, List.append_nil, ← empty]
    · rw [letIn, Nat.sub_eq_zero_of_le full, List.take_zero, List.drop_zero, List.append_nil]
  rw [Mailbox.send, if_pos ready.isOpen, List.append_nil, same]

/-- Events that are sent together are sent by their tasks, one by one. -/
theorem Ready.attend_posts (ready : box.Ready) (events : List Event) :
    box.attend (events.map .post) = ([], box.send events) := by
  induction events generalizing box with
  | nil =>
    rw [ready.send_nil]
    rfl
  | cons event events ih =>
    rw [List.map_cons, attend, ih (ready.send [event]).1, send_append, List.singleton_append]

theorem attend_takes (box : Mailbox) (count : Nat) :
    box.attend (List.replicate count .take) = box.receive count := by
  induction count generalizing box with
  | zero => rfl
  | succ count ih =>
    rw [List.replicate_succ, attend, receive]
    cases taken : box.take? with
    | none =>
      have nothing : (box.receive count) = ([], box) := by
        cases count with
        | zero => rfl
        | succ => rw [receive, taken]
      rw [← nothing]
      exact ih box
    | some taken => simp only [ih]

structure Fits (capacity : Nat) (box : Mailbox) : Prop where
  sized : box.capacity = capacity
  bounded : box.buffer.length ≤ capacity

theorem Fits.letIn (fits : box.Fits capacity) : box.letIn.Fits capacity := by
  refine ⟨fits.sized, ?_⟩
  have bounded := fits.bounded
  rw [← fits.sized] at bounded ⊢
  exact length_buffer_letIn_le box bounded

theorem Fits.send (fits : box.Fits capacity) (events : List Event) :
    (box.send events).Fits capacity := by
  unfold Mailbox.send
  split
  · exact Fits.letIn ⟨fits.sized, fits.bounded⟩
  · exact fits

theorem Fits.take? {event : Event} {rest : Mailbox} (fits : box.Fits capacity)
    (taken : box.take? = some (event, rest)) :
    rest.Fits capacity ∧ box.contents = event :: rest.contents ∧ rest.isOpen = box.isOpen := by
  unfold Mailbox.take? at taken
  have bounded := fits.bounded
  cases stored : box.buffer with
  | nil =>
    rw [stored] at taken
    cases taken
  | cons first buffer =>
    rw [stored] at taken bounded
    cases taken
    refine ⟨Fits.letIn ⟨fits.sized, ?_⟩, ?_, rfl⟩
    · exact Nat.le_of_succ_le bounded
    · rw [contents, contents, contents_letIn, stored, List.cons_append]

theorem Fits.receive (fits : box.Fits capacity) (count : Nat) :
    (box.receive count).2.Fits capacity ∧
      (box.receive count).1 ++ (box.receive count).2.contents = box.contents ∧
      (box.receive count).2.isOpen = box.isOpen := by
  induction count generalizing box with
  | zero => exact ⟨fits, rfl, rfl⟩
  | succ count ih =>
    rw [Mailbox.receive]
    cases taken : box.take? with
    | none => exact ⟨fits, rfl, rfl⟩
    | some taken' =>
      obtain ⟨fits', split, stays⟩ := fits.take? taken
      obtain ⟨after, left, stays'⟩ := ih fits'
      refine ⟨after, ?_, stays'.trans stays⟩
      rw [split, ← left]
      rfl

end Mailbox

namespace Outlet

/-- Where the events are that have been made for a channel. What has been taken and what is still on
its way are the first of them, and all of them while the tasks run and someone can take them. -/
inductive Conveys (capacity : Nat) : Outlet → List Event → List Event → Prop
  | mk {box : Mailbox} {isRunning : Bool} {made received : List Event}
    (fits : box.Fits capacity) (kept : received ++ box.contents <+: made)
    (complete : isRunning = true → box.isOpen = true →
      box.Ready ∧ received ++ box.contents = made) :
    Conveys capacity (channel box isRunning) made received

variable {capacity : Nat} {outlet : Outlet} {made received : List Event}

theorem Conveys.deliver (conveys : outlet.Conveys capacity made received) (events : List Event) :
    (outlet.deliver events).2.Conveys capacity (made ++ events) received := by
  cases conveys with
  | @mk box isRunning _ _ fits kept complete =>
    have later : received ++ box.contents <+: made ++ events :=
      kept.trans (List.prefix_append made events)
    cases isRunning with
    | false => exact .mk fits later fun running => by cases running
    | true =>
      cases opened : box.isOpen with
      | false =>
        have unsent : box.send events = box := by simp [Mailbox.send, opened]
        show (channel (box.send events) true).Conveys capacity (made ++ events) received
        rw [unsent]
        refine .mk fits later fun _ opened' => ?_
        rw [opened] at opened'
        cases opened'
      | true =>
        obtain ⟨ready, all⟩ := complete rfl opened
        obtain ⟨ready', contents⟩ := ready.send events
        have after : received ++ (box.send events).contents = made ++ events := by
          rw [contents, ← List.append_assoc, all]
        exact .mk (fits.send events) (after ▸ List.prefix_rfl) fun _ _ => ⟨ready', after⟩

theorem Conveys.receive (conveys : outlet.Conveys capacity made received) (count : Nat) :
    (outlet.receive count).2.Conveys capacity made (received ++ (outlet.receive count).1) := by
  cases conveys with
  | @mk box isRunning _ _ fits kept complete =>
    obtain ⟨fits', split, stays⟩ := fits.receive count
    have same : received ++ (box.receive count).1 ++ (box.receive count).2.contents =
        received ++ box.contents := by rw [List.append_assoc, split]
    refine .mk fits' ?_ fun running opened => ?_
    · show received ++ (box.receive count).1 ++ (box.receive count).2.contents <+: made
      rwa [same]
    · obtain ⟨ready, all⟩ := complete running (stays.symm.trans opened)
      exact ⟨(ready.receive count).1, same.trans all⟩

theorem Conveys.closeReceiver (conveys : outlet.Conveys capacity made received) :
    outlet.closeReceiver.Conveys capacity made received := by
  cases conveys with
  | @mk box isRunning _ _ fits kept complete =>
    refine .mk ⟨fits.sized, Nat.zero_le capacity⟩ ?_ fun _ opened => by cases opened
    show received ++ [] <+: made
    rw [List.append_nil]
    exact (List.prefix_append received box.contents).trans kept

theorem Conveys.shutdown (conveys : outlet.Conveys capacity made received) :
    outlet.shutdown.Conveys capacity made received := by
  cases conveys with
  | @mk box isRunning _ _ fits kept complete =>
    refine .mk ⟨fits.sized, fits.bounded⟩ ?_ fun running => by cases running
    refine List.IsPrefix.trans ?_ kept
    rw [Mailbox.contents, Mailbox.contents, ← List.append_assoc, ← List.append_assoc]
    show received ++ box.buffer ++ [] <+: received ++ box.buffer ++ box.waiting
    rw [List.append_nil]
    exact List.prefix_append _ _

theorem upheld_conveys (roomy : 0 < capacity) :
    Upheld (some (.channel capacity)) (fun _ => True) fun outlet made _ received =>
      outlet.Conveys capacity made received where
  made := .mk ⟨rfl, Nat.zero_le capacity⟩ List.prefix_rfl
    fun _ _ => ⟨⟨rfl, roomy, .inl rfl⟩, rfl⟩
  deliver events conveys := conveys.deliver events
  receive count conveys := conveys.receive count
  closeReceiver _ conveys := conveys.closeReceiver
  shutdown _ conveys := conveys.shutdown

/-- All that a channel holds and all that has come out of it comes from the tasks of the events that
were made, which sent them one by one, and from whoever took some in between. -/
def Served (capacity : Nat) (outlet : Outlet) (made received : List Event) : Prop :=
  ∃ errands box, outlet = channel box true ∧ box.Ready ∧
    errands.filterMap Errand.posted? = made ∧
    ({ capacity } : Mailbox).attend errands = (received, box)

theorem Served.deliver (served : outlet.Served capacity made received) (events : List Event) :
    (outlet.deliver events).2.Served capacity (made ++ events) received := by
  obtain ⟨errands, box, rfl, ready, posted, attended⟩ := served
  refine ⟨errands ++ events.map .post, box.send events, rfl, (ready.send events).1, ?_, ?_⟩
  · have all : (events.map Errand.post).filterMap Errand.posted? = events := by
      rw [List.filterMap_map]
      exact List.filterMap_some
    rw [List.filterMap_append, posted, all]
  · rw [Mailbox.attend_append, attended, ready.attend_posts, List.append_nil]

theorem Served.receive (served : outlet.Served capacity made received) (count : Nat) :
    (outlet.receive count).2.Served capacity made (received ++ (outlet.receive count).1) := by
  obtain ⟨errands, box, rfl, ready, posted, attended⟩ := served
  refine ⟨errands ++ List.replicate count .take, (box.receive count).2, rfl,
    (ready.receive count).1, ?_, ?_⟩
  · have none : (List.replicate count Errand.take).filterMap Errand.posted? = [] := by
      simp [Errand.posted?]
    rw [List.filterMap_append, posted, none, List.append_nil]
  · rw [Mailbox.attend_append, attended, Mailbox.attend_takes]
    rfl

theorem upheld_served (roomy : 0 < capacity) :
    Upheld (some (.channel capacity)) (Step.LetsPass (some (.channel capacity)))
      fun outlet made _ received => outlet.Served capacity made received where
  made := ⟨[], { capacity }, rfl, ⟨rfl, roomy, .inl rfl⟩, rfl, rfl⟩
  deliver events served := served.deliver events
  receive count served := served.receive count
  closeReceiver passes := absurd rfl (passes capacity)
  shutdown passes := passes.elim

end Outlet

namespace Run

open Crew Outlet

end Run

end Preconnect
