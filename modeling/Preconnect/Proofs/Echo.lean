import Preconnect.Proofs.Passive
import Preconnect.Proofs.Retelling

/-!
Runs told again. Where logs can be told again, so can whole runs, step by step, with all that they
answer; only what a step shows of the log is told in the other way.
-/
namespace Preconnect

open Observer (Retells)

variable {observer observer' : Observer} {retell : Log → Log}

/-- Runs can be told again as their logs can: what is written later comes later, and handlers await
the same events. -/
structure Observer.Echoes (observer observer' : Observer) (retell : Log → Log) : Prop extends
    Retells observer observer' retell where
  empty : retell {} = {}
  grows : ∀ log later, log.Grows later → (retell log).Grows (retell later)
  events : observer.handler.isSome = true → ∀ log, (retell log).events = log.events

theorem Log.grows_of_empty (later : Log) : Log.Grows {} later := List.nil_prefix

theorem Log.since_retold {α β : Type} (find : Happening → Option α)
    (find' : Happening → Option β) (pick : List α → List β)
    (append : ∀ xs ys, pick (xs ++ ys) = pick xs ++ pick ys)
    {log later : Log} (grows : log.Grows later) (grows' : (retell log).Grows (retell later))
    (views : ∀ log, (retell log).view find' = pick (log.view find)) :
    ((retell later).since (retell log).size).filterMap find' =
      pick ((later.since log.size).filterMap find) := by
  have all := views later
  rw [Log.view_since grows, Log.view_since grows', append, views log] at all
  exact List.append_cancel_left all

namespace Outlet

theorem stays_of_plain {outlet : Outlet} (plain : outlet.isPlain = true) :
    outlet.shutdown = outlet ∧ (∀ count, (outlet.receive count).2 = outlet) ∧
      outlet.closeReceiver = outlet ∧ ∀ events, (outlet.deliver events).2 = outlet := by
  cases outlet with
  | nowhere | callback => exact ⟨rfl, fun _ => rfl, rfl, fun _ => rfl⟩
  | tasks | channel => cases plain

end Outlet

namespace Run

variable {run : Run}

def retold (observer : Observer) (retell : Log → Log) (run : Run) : Run :=
  { run with observer, crew := run.crew.retold retell }

theorem outlet_move (plain : run.outlet.isPlain = true) (step : Step) :
    (run.move step).1.outlet = run.outlet := by
  obtain ⟨shutdown, receive, closeReceiver, -⟩ := Outlet.stays_of_plain plain
  cases step with
  | finish | finishAll => exact outlet_settle _
  | wait => rfl
  | cancel => exact outlet_cancel run
  | shutdown => exact (outlet_settle _).trans shutdown
  | receive count => exact receive count
  | closeReceiver => exact closeReceiver

theorem outlet_step (plain : run.outlet.isPlain = true) (step : Step) :
    (run.step step).1.outlet = run.outlet := by
  have moved := outlet_move plain step
  obtain ⟨-, -, -, deliver⟩ := Outlet.stays_of_plain plain
  rw [← moved] at deliver ⊢
  exact deliver _

/-- Without a handler there is no way for events to go. -/
def Unheard (run : Run) : Prop := run.observer.handler = none → run.outlet = .nowhere

theorem Unheard.deliverSince (unheard : run.Unheard) (size : Nat) :
    (run.deliverSince size).2.Unheard := by
  intro unhandled
  have nowhere := unheard unhandled
  show (run.outlet.deliver _).2 = .nowhere
  rw [nowhere]
  rfl

theorem Unheard.move (unheard : run.Unheard) (step : Step) : (run.move step).1.Unheard := by
  intro unhandled
  have same : (run.move step).1.observer = run.observer := observer_step run step
  rw [same] at unhandled
  have nowhere := unheard unhandled
  have plain : run.outlet.isPlain = true := by rw [nowhere]; rfl
  rw [outlet_move plain, nowhere]

theorem Unheard.step (unheard : run.Unheard) (step : Step) : (run.step step).1.Unheard :=
  (unheard.move step).deliverSince run.crew.log.size

section
variable (run : Run) (h : run.observer.Retells observer' retell)
include h

theorem settle_retold :
    (run.retold observer' retell).settle = run.settle.retold observer' retell := by
  have isOver : (run.crew.retold retell).isOver = run.crew.isOver := rfl
  simp only [settle, retold, isOver, Crew.settle_retold h]
  split <;> rfl

theorem proceed_retold (workers : List Nat) :
    (run.retold observer' retell).proceed workers =
      (run.proceed workers).retold observer' retell := by
  have turned : (run.crew.retold retell).turns observer' run.plan workers = _ :=
    Crew.turns_retold h run.crew workers
  simp only [proceed, retold, turned]
  exact settle_retold { run with crew := run.crew.turns run.observer run.plan workers } h

theorem finish_retold (items : List (Nat × Outcome)) :
    (run.retold observer' retell).finish items =
      ((run.finish items).1.retold observer' retell, (run.finish items).2) := by
  have released : (run.crew.retold retell).release observer' items = _ :=
    Crew.release_retold h run.crew items
  simp only [finish, retold, released]
  exact congrArg (·, _)
    (proceed_retold { run with crew := (run.crew.release run.observer items).1 } h _)

theorem cancel_retold :
    (run.retold observer' retell).cancel = run.cancel.retold observer' retell := by
  have cancelled : (run.crew.retold retell).cancelAll observer' = _ :=
    Crew.cancelAll_retold h run.crew
  simp only [cancel, retold, cancelled]
  split
  · simp only [Crew.retold, h.drop]
  · rfl

theorem shutdown_retold :
    (run.retold observer' retell).shutdown = run.shutdown.retold observer' retell := by
  have cancelled : (run.crew.retold retell).cancelAll observer' = _ :=
    Crew.cancelAll_retold h run.crew
  simp only [shutdown, retold, cancelled]
  exact settle_retold { run with
    crew := run.crew.cancelAll run.observer, outlet := run.outlet.shutdown } h

theorem announce_retold :
    (run.retold observer' retell).announce =
      (run.announce.1.retold observer' retell, run.announce.2) := by
  simp only [announce, retold, Crew.retold, h.emit, h.panics]
  split <;> rfl

theorem begin_retold :
    (run.retold observer' retell).begin = run.begin.retold observer' retell := by
  have same : run.announce.1.observer = run.observer := by
    unfold announce
    dsimp only
    split <;> rfl
  rw [begin, announce_retold run h]
  exact proceed_retold run.announce.1 (by rwa [same]) run.announce.2

theorem move_retold (step : Step) :
    (run.retold observer' retell).move step =
      ((run.move step).1.retold observer' retell, (run.move step).2) := by
  cases step with
  | finish items => simp only [move, finish_retold run h]
  | finishAll outcome =>
    have inFlight : (run.retold observer' retell).crew.inFlight = run.crew.inFlight := rfl
    simp only [move, inFlight, finish_retold run h]
  | cancel => simp only [move, cancel_retold run h]
  | shutdown => simp only [move, shutdown_retold run h]
  | wait | receive | closeReceiver => rfl

end

section
variable (run : Run) (h : run.observer.Echoes observer' retell)
include h

theorem deliverSince_retold (unheard : run.Unheard) {log : Log} (grows : log.Grows run.crew.log) :
    (run.retold observer' retell).deliverSince (retell log).size =
      ((run.deliverSince log.size).1, (run.deliverSince log.size).2.retold observer' retell) := by
  cases handled : run.observer.handler.isSome with
  | true =>
    have same : (run.retold observer' retell).emittedSince (retell log).size =
        run.emittedSince log.size :=
      Log.since_retold _ _ id (fun _ _ => rfl) grows (h.grows _ _ grows) (h.events handled)
    have outlet : (run.retold observer' retell).outlet = run.outlet := rfl
    simp only [deliverSince, same, outlet]
    rfl
  | false =>
    have nowhere := unheard (by simpa using handled)
    have nowhere' : (run.retold observer' retell).outlet = .nowhere := nowhere
    simp only [deliverSince, nowhere, nowhere', Outlet.deliver]
    rfl

theorem step_retold (unheard : run.Unheard) (step : Step) :
    (run.retold observer' retell).step step =
      ((run.step step).1.retold observer' retell, (run.step step).2) := by
  have moved := move_retold run h.toRetells step
  have same : (run.move step).1.observer = run.observer := observer_step run step
  rw [← same] at h
  have delivered := deliverSince_retold (run.move step).1 h (unheard.move step)
    (grows_move run step)
  have size : (run.retold observer' retell).crew.log.size = (retell run.crew.log).size := rfl
  simp only [Run.step, moved, size, delivered]

theorem steps_retold (unheard : run.Unheard) (steps : List Step) :
    ((run.retold observer' retell).steps steps).1 =
      (run.steps steps).1.retold observer' retell := by
  induction steps generalizing run with
  | nil => rfl
  | cons step rest ih =>
    have next := ih (run.step step).1
    rw [observer_step] at next
    have all := next h (unheard.step step)
    rw [Run.steps, step_retold run h unheard]
    exact all

theorem entries_retold {again : Entry → Entry}
    (entry : ∀ (run : Run) (log : Log) (response : Response), log.Grows run.crew.log →
      (run.retold observer' retell).entry (retell log).size response =
        again (run.entry log.size response))
    (unheard : run.Unheard) (steps : List Step) :
    ((run.retold observer' retell).steps steps).2 = (run.steps steps).2.map again := by
  induction steps generalizing run with
  | nil => rfl
  | cons step rest ih =>
    have next := ih (run.step step).1
    rw [observer_step] at next
    have all := next h (unheard.step step)
    have first := entry (run.step step).1 run.crew.log (run.step step).2 (grows_move run step)
    rw [entries_cons, entries_cons, List.map_cons, step_retold run h unheard, all, ← first]
    rfl

end

theorem observer_begin (run : Run) : run.begin.observer = run.observer := by
  cases panics : run.observer.panic? run.request.started with
  | some payload => rw [begin_refused run panics]
  | none =>
    rw [begin_proceeds run panics]
    exact observer_settle _

theorem observer_opened (request : Request) (level : Option Level) (plan : Plan) (pool : Pool) :
    (opened request level plan pool).observer = .ofRequest request level := by
  unfold opened
  split
  · rfl
  · exact observer_begin _

theorem outlet_opened (request : Request) (level : Option Level) (plan : Plan) (pool : Pool) :
    (opened request level plan pool).outlet = .ofHandler request.handler := by
  unfold opened
  split
  · rfl
  · exact outlet_begin _

theorem unheard_opened (request : Request) (level : Option Level) (plan : Plan) (pool : Pool) :
    (opened request level plan pool).Unheard := by
  intro unhandled
  rw [observer_opened] at unhandled
  exact (outlet_opened request level plan pool).trans (congrArg Outlet.ofHandler unhandled)

section
variable {request : Request} {level level' : Option Level}
  (h : (Observer.ofRequest request level).Echoes (.ofRequest request level') retell)
  (plan : Plan) (pool : Pool)
include h

theorem opened_retold :
    opened request level' plan pool =
      (opened request level plan pool).retold (.ofRequest request level') retell := by
  have origin : ofRequest request level' plan pool =
      (ofRequest request level plan pool).retold (.ofRequest request level') retell := by
    simp only [ofRequest, retold, Crew.retold, Crew.ofCounts, h.empty]
  unfold opened
  rw [origin]
  split
  · rfl
  · exact begin_retold (ofRequest request level plan pool) h.toRetells

theorem start_retold :
    start request level' plan pool =
      ((start request level plan pool).1.retold (.ofRequest request level') retell,
        (start request level plan pool).2) := by
  have opens := opened_retold h plan pool
  have unheard := unheard_opened request level plan pool
  have empty := h.empty
  rw [← observer_opened request level plan pool] at h
  have delivered := deliverSince_retold _ h unheard (Log.grows_of_empty _)
  rw [empty, ← opens] at delivered
  simp only [start_eq]
  exact congrArg (fun result => (result.2, ({ delivered := result.1 } : Response))) delivered

/-- A run at one level is the run at the other one, told again. -/
theorem play_retold (steps : List Step) :
    (play request level' plan pool steps).1 =
      (play request level plan pool steps).1.retold (.ofRequest request level') retell := by
  have observer : (start request level plan pool).1.observer = .ofRequest request level :=
    observer_opened request level plan pool
  have starts := start_retold h plan pool
  rw [← observer] at h
  show ((start request level' plan pool).1.steps steps).1 = _
  rw [starts]
  exact steps_retold _ h ((unheard_opened request level plan pool).deliverSince 0) steps

theorem accounts_retold {again : Entry → Entry}
    (entry : ∀ (run : Run) (log : Log) (response : Response), log.Grows run.crew.log →
      (run.retold (.ofRequest request level') retell).entry (retell log).size response =
        again (run.entry log.size response))
    (steps : List Step) :
    (play request level' plan pool steps).2 =
      (play request level plan pool steps).2.map again := by
  have observer : (start request level plan pool).1.observer = .ofRequest request level :=
    observer_opened request level plan pool
  have starts := start_retold h plan pool
  have first := entry (start request level plan pool).1 {} (start request level plan pool).2
    (Log.grows_of_empty _)
  rw [h.empty] at first
  rw [← observer] at h
  show (start request level' plan pool).1.entry 0 (start request level' plan pool).2 ::
    ((start request level' plan pool).1.steps steps).2 = _
  rw [starts]
  exact congrArg₂ List.cons first
    (entries_retold _ h entry ((unheard_opened request level plan pool).deliverSince 0) steps)

end

end Run

end Preconnect
