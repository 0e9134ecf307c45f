import Mathlib.Algebra.Ring.Nat
import Preconnect.Proofs.AllOrNothing
import Preconnect.Proofs.Delivery

/-!
After the end. A warm-up that has ended, in whatever way, does nothing any more, whatever is decided
afterwards; only events that were made before are still on their way.
-/
namespace Preconnect

namespace Crew

variable {observer : Observer} {action : Action} {crew : Crew}

theorem run_of_isOver (observer : Observer) (allOver : crew.isOver = true)
    (actions : List Action) : crew.run observer actions = crew := by
  induction actions with
  | nil => rfl
  | cons action rest ih =>
    rw [run, List.foldl_cons, step_of_isOver observer allOver]
    exact ih

theorem inFlight_of_isOver (allOver : crew.isOver = true) : crew.inFlight = [] := by
  have none : gather crew.stages Stage.inFlight? = [] := gather_of_isOver allOver fun _ => rfl
  rw [gather] at none
  rw [inFlight, none, List.mergeSort_nil]

theorem view_step_cancel {α : Type} {find : Happening → Option α}
    (unfound : ∀ worker attempt, find (.abandoned worker attempt) = none) (observer : Observer)
    (crew : Crew) (worker : Nat) :
    (crew.step observer (.cancel worker)).log.view find = crew.log.view find := by
  rcases step_eq_or_change observer (allows_anything crew (.cancel worker)) with same | change
  · rw [same]
  · generalize crew.step observer (.cancel worker) = crew' at change
    obtain ⟨-, shift⟩ := change
    cases shift with
    | abandon => simp [unfound]
    | leave => rfl

theorem view_cancelAll {α : Type} {find : Happening → Option α}
    (unfound : ∀ worker attempt, find (.abandoned worker attempt) = none) (observer : Observer)
    (crew : Crew) : (crew.cancelAll observer).log.view find = crew.log.view find :=
  cancelAll_invariant (fun after => after.log.view find = crew.log.view find)
    (fun worker same => (view_step_cancel unfound observer _ worker).trans same) rfl

end Crew

theorem Log.since_size (log : Log) : log.since log.size = [] := by
  have size : log.size = log.toList.length := Array.length_toList.symm
  rw [since_eq_drop, size, List.drop_length]

/-- The account of a step in which nothing happened, but for events that were taken. -/
structure Entry.Still (entry : Entry) : Prop where
  started : entry.started = []
  inFlight : entry.inFlight = []
  abandoned : entry.abandoned = []
  delivered : entry.delivered = []
  poolCalls : entry.poolCalls = []
  dropped : entry.dropped = []
  traced : entry.traced = []

def Step.takes : Step → Nat
  | receive count => count
  | finish _ | finishAll _ | wait | cancel | shutdown | closeReceiver => 0

namespace Outlet

variable {outlet : Outlet} {missing : List Event}

theorem deliver_nil (outlet : Outlet) : (outlet.deliver []).1 = [] := by
  cases outlet with
  | tasks => exact ite_self []
  | nowhere | callback | channel => rfl

/-- The outlet is a channel that still has the events, and nothing else. -/
def Keeps (outlet : Outlet) (missing : List Event) : Prop :=
  ∃ box : Mailbox, outlet = channel box true ∧ box.Ready ∧ box.contents = missing

theorem Keeps.deliver_nil (keeps : outlet.Keeps missing) :
    (outlet.deliver []).2.Keeps missing := by
  obtain ⟨box, rfl, ready, rfl⟩ := keeps
  obtain ⟨ready', contents⟩ := ready.send []
  rw [List.append_nil] at contents
  exact ⟨box.send [], rfl, ready', contents⟩

theorem Carries.keeps {capacity : Nat} {sent delivered received : List Event}
    (carries : Carries (some (.channel capacity)) outlet sent delivered received) :
    ∃ missing, outlet.Keeps missing ∧ received ++ missing = sent := by
  cases carries with
  | @channel _ box ready => exact ⟨box.contents, ⟨box, rfl, ready, rfl⟩, rfl⟩

theorem Keeps.receive (keeps : outlet.Keeps missing) (count : Nat) :
    (outlet.receive count).1 = missing.take count ∧
      (outlet.receive count).2.Keeps (missing.drop count) := by
  obtain ⟨box, rfl, ready, rfl⟩ := keeps
  obtain ⟨ready', taken, left⟩ := ready.receive count
  exact ⟨taken, (box.receive count).2, rfl, ready', left⟩

end Outlet

namespace Run

open Crew

variable {request : Request} {observer : Observer} {plan : Plan} {supply : Supply} {pool : Pool}
  {run : Run}

structure HasEnded (run : Run) : Prop where
  concluded : run.conclusion.isSome = true
  deserted : run.crew.isOver = true

theorem HasEnded.outlet (past : run.HasEnded) (outlet : Outlet) : HasEnded { run with outlet } :=
  ⟨past.concluded, past.deserted⟩

theorem settle_of_concluded (concluded : run.conclusion.isSome = true) : run.settle = run := by
  unfold settle
  rw [Option.isNone_eq_false_iff.2 concluded]
  rfl

theorem HasEnded.finish (past : run.HasEnded) (items : List (Nat × Outcome)) :
    (run.finish items).1 = run := by
  obtain ⟨same, nobody⟩ := release_of_isOver run.observer past.deserted items
  simp only [Run.finish, same, nobody, proceed, turns, List.foldl_nil]
  exact settle_of_concluded past.concluded

theorem HasEnded.move (past : run.HasEnded) (step : Step) :
    ∃ outlet, (run.move step).1 = { run with outlet } := by
  cases step with
  | finish | finishAll => exact ⟨run.outlet, past.finish _⟩
  | wait => exact ⟨run.outlet, rfl⟩
  | cancel =>
    refine ⟨run.outlet, ?_⟩
    show run.cancel = run
    unfold Run.cancel
    rw [Option.isNone_eq_false_iff.2 past.concluded]
    rfl
  | shutdown =>
    refine ⟨run.outlet.shutdown, ?_⟩
    show run.shutdown = _
    unfold Run.shutdown
    rw [cancelAll_of_isOver run.observer past.deserted]
    exact settle_of_concluded past.concluded
  | receive | closeReceiver => exact ⟨_, rfl⟩

/-- After its end a warm-up changes no more, whatever is decided. -/
theorem HasEnded.step (past : run.HasEnded) (step : Step) :
    ∃ outlet, (run.step step).1 = { run with outlet } := by
  obtain ⟨outlet, same⟩ := past.move step
  refine ⟨(outlet.deliver (run.emittedSince run.crew.log.size)).2, ?_⟩
  show ((run.move step).1.deliverSince run.crew.log.size).2 = _
  rw [same]
  rfl

theorem HasEnded.next (past : run.HasEnded) (step : Step) : HasEnded (run.step step).1 := by
  obtain ⟨outlet, same⟩ := past.step step
  rw [same]
  exact past.outlet outlet

theorem HasEnded.steps (past : run.HasEnded) (later : List Step) :
    ∃ outlet, (run.steps later).1 = { run with outlet } := by
  induction later generalizing run with
  | nil => exact ⟨run.outlet, rfl⟩
  | cons step rest ih =>
    obtain ⟨outlet, same⟩ := past.step step
    obtain ⟨outlet', same'⟩ := ih (past.next step)
    refine ⟨outlet', same'.trans ?_⟩
    rw [same]

theorem entries_cons (run : Run) (step : Step) (rest : List Step) :
    (run.steps (step :: rest)).2 =
      (run.step step).1.entry run.crew.log.size (run.step step).2 ::
        ((run.step step).1.steps rest).2 := rfl

theorem entries_append (run : Run) (steps later : List Step) :
    (run.steps (steps ++ later)).2 =
      (run.steps steps).2 ++ ((run.steps steps).1.steps later).2 := by
  induction steps generalizing run with
  | nil => rfl
  | cons step rest ih =>
    rw [List.cons_append, entries_cons, entries_cons, ih, List.cons_append]
    rfl

theorem HasEnded.delivered (past : run.HasEnded) (step : Step) :
    (run.step step).2.delivered = [] := by
  obtain ⟨outlet, same⟩ := past.move step
  show ((run.move step).1.outlet.deliver ((run.move step).1.emittedSince run.crew.log.size)).1 = []
  rw [same, emittedSince, Log.since_size]
  exact Outlet.deliver_nil outlet

theorem HasEnded.still (past : run.HasEnded) (step : Step) :
    ((run.step step).1.entry run.crew.log.size (run.step step).2).Still ∧
      ((run.step step).1.entry run.crew.log.size (run.step step).2).conclusion =
        run.conclusion := by
  have delivered := past.delivered step
  have nobody := inFlight_of_isOver past.deserted
  obtain ⟨outlet, same⟩ := past.step step
  rw [same, entry]
  dsimp only
  rw [Log.since_size]
  exact ⟨⟨rfl, nobody, List.mergeSort_nil, delivered, ite_self [], rfl, rfl⟩, rfl⟩

theorem HasEnded.entries (past : run.HasEnded) (later : List Step) :
    ∀ entry ∈ (run.steps later).2, entry.Still ∧ entry.conclusion = run.conclusion := by
  induction later generalizing run with
  | nil => exact fun _ member => by cases member
  | cons step rest ih =>
    have rests := ih (past.next step)
    obtain ⟨outlet, same⟩ := past.step step
    have stays : (run.step step).1.conclusion = run.conclusion := by rw [same]
    rw [stays] at rests
    rw [entries_cons]
    exact List.forall_mem_cons.2 ⟨past.still step, rests⟩

theorem HasEnded.receives {capacity : Nat} {missing : List Event} (past : run.HasEnded)
    {step : Step}
    (passes : step.LetsPass (some (.channel capacity))) (keeps : run.outlet.Keeps missing) :
    (run.step step).2.received = missing.take step.takes ∧
      (run.step step).1.outlet.Keeps (missing.drop step.takes) := by
  obtain ⟨outlet, same⟩ := past.move step
  have moved : (run.move step).2.received = missing.take step.takes ∧
      (run.move step).1.outlet.Keeps (missing.drop step.takes) := by
    cases step with
    | finish | finishAll =>
      refine ⟨rfl, ?_⟩
      show (run.finish _).1.outlet.Keeps missing
      rwa [past.finish]
    | wait => exact ⟨rfl, keeps⟩
    | cancel =>
      refine ⟨rfl, ?_⟩
      show run.cancel.outlet.Keeps missing
      rwa [outlet_cancel]
    | shutdown => cases passes
    | receive count => exact keeps.receive count
    | closeReceiver => exact absurd rfl (passes capacity)
  refine ⟨moved.1, ?_⟩
  have after := moved.2
  show ((run.move step).1.outlet.deliver
    ((run.move step).1.emittedSince run.crew.log.size)).2.Keeps _
  rw [same, emittedSince, Log.since_size] at *
  exact after.deliver_nil

theorem HasEnded.drains {capacity : Nat} {missing : List Event} (past : run.HasEnded)
    {later : List Step}
    (passes : ∀ step ∈ later, step.LetsPass (some (.channel capacity)))
    (keeps : run.outlet.Keeps missing) :
    (run.steps later).2.flatMap (·.received) = missing.take (later.map Step.takes).sum := by
  induction later generalizing run missing with
  | nil => rfl
  | cons step rest ih =>
    obtain ⟨first, others⟩ := List.forall_mem_cons.1 passes
    obtain ⟨received, left⟩ := past.receives first keeps
    have rests := ih (past.next step) others left
    rw [entries_cons, List.flatMap_cons, rests, List.map_cons, List.sum_cons, List.take_add,
      ← received]
    rfl

theorem InPhase.hasEnded {run : Run} (inPhase : InPhase request observer plan supply pool run)
    (concluded : run.conclusion.isSome = true) : run.HasEnded := by
  refine ⟨concluded, ?_⟩
  obtain ⟨conclusion, ended⟩ := Option.isSome_iff_exists.1 concluded
  have phase := inPhase.phase
  rw [ended] at phase
  exact phase.isOver

/-- Once a warm-up has ended, it is over. No worker is left that could call the establisher, record
a result or tell anyone, the pool is not called any more, and if the warm-up was given up it has
never been called. Events that were made before the end reach their callback, or come out of their
channel for whoever takes them, unless the tasks that carry them are stopped. The same holds
wherever in an interleaving of its steps a crew is cancelled. -/
theorem nothing_survives (request : Request) (level : Option Level) (plan : Plan) (pool : Pool)
    (steps later : List Step)
    (ended : (play request level plan pool steps).1.conclusion.isSome = true) :
    let observer := Observer.ofRequest request level
    let run := (play request level plan pool steps).1
    let after := (run.steps later).1
    let entries := (play request level plan pool (steps ++ later)).2
    run.crew.isOver = true ∧ after.crew = run.crew ∧ after.pool = run.pool ∧
      after.conclusion = run.conclusion ∧
      (∀ entry ∈ (run.steps later).2, entry.Still ∧ entry.conclusion = run.conclusion) ∧
      (run.conclusion = some .cancelled → run.crew.log.poolCalls = [] ∧ run.pool = pool) ∧
      (∀ panics panicsLater, request.handler = some (.asyncCallback panics panicsLater) →
        (∀ step ∈ steps, step.LetsPass request.handler) →
          entries.flatMap (·.delivered) = run.crew.log.events.filter fun event =>
            !((panics event).isSome || panicsLater event)) ∧
      (∀ capacity, request.handler = some (.channel capacity) → 0 < capacity →
        (∀ step ∈ steps ++ later, step.LetsPass request.handler) →
          ∃ missing,
            (play request level plan pool steps).2.flatMap (·.received) ++ missing =
              run.crew.log.events ∧
            (run.steps later).2.flatMap (·.received) =
              missing.take (later.map Step.takes).sum) ∧
      ∀ actions : List Action,
        let crew := (request.crew observer).run observer actions
        let cancelled := (crew.cancelAll observer).dropped
        cancelled.isOver = true ∧ (∀ further, cancelled.run observer further = cancelled) ∧
          cancelled.log.began = crew.log.began ∧ cancelled.log.results = crew.log.results ∧
          cancelled.log.events = crew.log.events ∧ cancelled.log.poolCalls = [] ∧
          (crew.isOver = true → ∀ further,
            (crew.settle request observer pool).1.run observer further =
              (crew.settle request observer pool).1) := by
  intro observer run after entries
  have inPhase : InPhase request observer plan anything pool run :=
    inPhase_play request level plan pool steps
  have past : run.HasEnded := inPhase.hasEnded ended
  obtain ⟨outlet, same⟩ : ∃ outlet, after = { run with outlet } := past.steps later
  have silent := past.entries later
  have split : entries = (play request level plan pool steps).2 ++ (run.steps later).2 := by
    exact congrArg (_ :: ·) (entries_append _ steps later)
  refine ⟨past.deserted, by rw [same], by rw [same], by rw [same], silent, ?_, ?_, ?_, ?_⟩
  · intro cancelled
    have untouched := inPhase.phase.untouched (.inr (.inr (.inl cancelled)))
    refine ⟨untouched, ?_⟩
    rw [inPhase.phase.dealt.pool, untouched]
    rfl
  · intro panics panicsLater handled passes
    have carries := carries_play level plan pool (fun capacity channel => by
      rw [handled] at channel
      cases channel) passes
    have nothing : (run.steps later).2.flatMap (·.delivered) = [] :=
      List.flatMap_eq_nil_iff.2 fun entry member => (silent entry member).1.delivered
    rw [split, List.flatMap_append, nothing, List.append_nil]
    rw [handled] at carries
    exact carries.filtered
  · intro capacity handled roomy passes
    obtain ⟨before, afterwards⟩ := List.forall_mem_append.1 passes
    have carries := carries_play level plan pool (fun capacity' channel => by
      rw [handled] at channel
      cases channel
      exact roomy) before
    rw [handled] at carries afterwards
    obtain ⟨missing, keeps, all⟩ := carries.keeps
    exact ⟨missing, all, past.drains afterwards keeps⟩
  · intro actions crew cancelled
    have reached : Reached observer anything (request.crew observer) crew := reached_run _ actions
    have deserted : cancelled.isOver = true := isOver_cancelAll observer crew
    have tells {α : Type} {find : Happening → Option α}
        (unfound : ∀ worker attempt, find (.abandoned worker attempt) = none)
        (undropped : ∀ connection, find (.dropped connection) = none) :
        cancelled.log.view find = crew.log.view find :=
      (Log.view_drop_of_none _ _ undropped).trans (view_cancelAll unfound observer crew)
    refine ⟨deserted, run_of_isOver observer deserted, tells (fun _ _ => rfl) fun _ => rfl,
      tells (fun _ _ => rfl) fun _ => rfl, tells (fun _ _ => rfl) fun _ => rfl, ?_, ?_⟩
    · exact (tells (fun _ _ => rfl) fun _ => rfl).trans (faithful_reached reached).untouched
    · intro allOver
      apply run_of_isOver
      rwa [Crew.isOver, stages_settle]

/-- The warm-up is given up while an attempt is in flight and an event waits in front of the
channel. The attempt comes to nothing, the event still comes out. -/
theorem nothing_survives_given_up :
    let request : Request := ⟨2, 2, true, none, some (.channel 1)⟩
    let steps : List Step := [.finish [(0, .ok "a")], .cancel]
    let later : List Step := [.finish [(1, .ok "b")], .receive 1, .receive 5]
    let run := (play request none (fun _ => none) .fresh steps).1
    run.conclusion = some .cancelled ∧ run.crew.log.poolCalls = [] ∧
      (run.steps later).1.crew = run.crew ∧ (∀ entry ∈ (run.steps later).2, entry.Still) ∧
      (run.steps later).2.flatMap (·.received) =
        [⟨none, .started 2 2 true⟩, ⟨none, .established 0⟩] := by
  intro request steps later run
  have given : run.conclusion = some .cancelled := by decide +kernel
  obtain ⟨-, crew, -, -, still, untouched, -⟩ :=
    nothing_survives request none (fun _ => none) .fresh steps later (by decide +kernel)
  exact ⟨given, (untouched given).1, crew, fun entry member => (still entry member).1,
    by decide +kernel⟩

/-- The tasks that carry events do not outlive their runtime. The warm-up has long succeeded, but of
its three events only the one that is in the channel at the shutdown can still be taken. -/
theorem events_lost_in_shutdown :
    let request : Request := ⟨1, 1, true, none, some (.channel 1)⟩
    let played := play request none (fun _ => some (.ok "c0")) .fresh []
    let later := played.1.steps [.shutdown, .receive 3]
    played.1.conclusion = some (.succeeded ⟨1, 0, none⟩) ∧
      played.1.crew.log.events =
        [⟨none, .started 1 1 true⟩, ⟨none, .established 0⟩, ⟨none, .succeeded 1 0⟩] ∧
      (played.2 ++ later.2).flatMap (·.received) = [⟨none, .started 1 1 true⟩] := by
  decide +kernel

end Run

end Preconnect
