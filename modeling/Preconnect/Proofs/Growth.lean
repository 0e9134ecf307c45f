import Preconnect.Proofs.Phase

/-!
Logs only grow. Whatever workers, a settlement or a decision from outside do, what was written
before is left as it is, and what they write comes after it.
-/
namespace Preconnect

namespace Log

def Grows (log later : Log) : Prop := log.toList <+: later.toList

theorem Grows.refl (log : Log) : log.Grows log := List.prefix_rfl

theorem Grows.trans {log middle later : Log} (first : log.Grows middle)
    (second : middle.Grows later) : log.Grows later := List.IsPrefix.trans first second

theorem Grows.view {log later : Log} {α : Type} (grows : log.Grows later)
    (find : Happening → Option α) : log.view find <+: later.view find := grows.filterMap find

theorem grows_add (log : Log) (happening : Happening) : log.Grows (log.add happening) := by
  rw [Grows, toList_add]
  exact List.prefix_append _ _

theorem grows_drop (log : Log) (connections : List Connection) :
    log.Grows (log.drop connections) := by
  rw [Grows, toList_drop]
  exact List.prefix_append _ _

end Log

open Log (grows_add grows_drop)

namespace Observer

theorem grows_trace (observer : Observer) (log : Log) (record : Record) :
    log.Grows (observer.trace log record) := by
  unfold trace
  split
  · exact grows_add _ _
  · exact .refl _

theorem grows_emit (observer : Observer) (log : Log) (notice : Notice) :
    log.Grows (observer.emit log notice) := by
  unfold emit
  split
  · exact (observer.grows_trace log _).trans (grows_add _ _)
  · exact .refl _

end Observer

namespace Crew

variable {observer : Observer} {supply : Supply} {action : Action} {origin crew crew' : Crew}

theorem grows_change (change : Change observer supply action crew crew') :
    crew.log.Grows crew'.log := by
  obtain ⟨-, shift⟩ := change
  cases shift with
  | start | stop => exact observer.grows_trace _ _
  | begin | abandon => exact grows_add _ _
  | record =>
    rw [log_setStage, log_record]
    exact grows_add _ _
  | tell | die => exact observer.grows_emit _ _
  | take | finish | leave => exact .refl _

theorem grows_reached (h : Reached observer supply origin crew) : origin.log.Grows crew.log :=
  reached_invariant (fun after => origin.log.Grows after.log)
    (fun change ih => ih.trans (grows_change change)) h (.refl _)

theorem grows_turn (observer : Observer) (plan : Plan) (worker : Nat) (crew : Crew) :
    crew.log.Grows (crew.turn observer plan worker).log :=
  grows_reached (reached_turn plan.within_anything .refl)

theorem grows_turns (observer : Observer) (plan : Plan) (crew : Crew) (workers : List Nat) :
    crew.log.Grows (crew.turns observer plan workers).log :=
  grows_reached (reached_turns plan.within_anything .refl workers)

theorem grows_released (observer : Observer) (plan : Plan) (crew : Crew)
    (items : List (Nat × Outcome)) :
    crew.log.Grows ((crew.release observer items).1.turns observer plan
      (crew.release observer items).2.1).log := by
  have turned := grows_turns observer plan (crew.release observer items).1
    (crew.release observer items).2.1
  rwa [log_release] at turned

theorem grows_cancelAll (observer : Observer) (crew : Crew) :
    crew.log.Grows (crew.cancelAll observer).log := by
  have reached : Reached observer anything crew (crew.cancelAll observer) := reached_cancelAll .refl
  exact grows_reached reached

theorem grows_joined (observer : Observer) (crew : Crew) :
    crew.log.Grows (crew.joined observer).log := by
  have reports : crew.log.Grows (crew.reportMishaps observer).log := by
    unfold reportMishaps
    generalize crew.mishaps = mishaps
    generalize crew.log = log
    induction mishaps generalizing log with
    | nil => exact .refl _
    | cons mishap rest ih => exact (observer.grows_trace log _).trans (ih _)
  rw [joined, recordNeverRun_eq]
  refine reports.trans ?_
  generalize crew.reportMishaps observer = reported
  have same : reported.log = { reported with queue := ⟨[]⟩ : Crew }.log := rfl
  rw [same]
  generalize ({ reported with queue := ⟨[]⟩ } : Crew) = emptied
  induction reported.queue.attempts generalizing emptied with
  | nil => exact .refl _
  | cons attempt rest ih =>
    refine Log.Grows.trans ?_ (ih (emptied.giveUp attempt))
    rw [giveUp, log_record]
    exact grows_add _ _

end Crew

namespace Books

theorem lasting_grows (observer : Observer) (log : Log) :
    Lasting observer (fun _ => True) log.Grows where
  called _ grows := grows.trans (grows_add _ _)
  dropped _ grows := grows.trans (grows_drop _ _)
  told _ grows := grows.trans (observer.grows_emit _ _)

theorem grows_conclude (observer : Observer) (notice : Notice) (conclusion : Conclusion)
    (result : Books × Option Payload) :
    result.1.log.Grows (conclude observer notice conclusion result).1.log :=
  (lasting_grows observer result.1.log).conclude trivial conclusion (.refl _)

end Books

namespace Crew

theorem grows_settle (request : Request) (observer : Observer) (crew : Crew) (pool : Pool) :
    crew.log.Grows (crew.settle request observer pool).1.log :=
  lasts_settle request observer crew pool (Books.lasting_grows observer crew.log)
    (fun _ => trivial) (fun _ _ => trivial) (fun _ _ => trivial) (grows_joined observer crew)

end Crew

namespace Run

open Crew

theorem grows_settle_run (run : Run) : run.crew.log.Grows run.settle.crew.log := by
  unfold settle
  split
  · exact grows_settle run.request run.observer run.crew run.pool
  · exact .refl _

theorem grows_finish (run : Run) (items : List (Nat × Outcome)) :
    run.crew.log.Grows (run.finish items).1.crew.log := by
  refine Log.Grows.trans ?_ (grows_settle_run _)
  exact grows_released run.observer run.plan run.crew items

theorem grows_cancel (run : Run) : run.crew.log.Grows run.cancel.crew.log := by
  unfold cancel
  split
  · exact (grows_cancelAll run.observer run.crew).trans (grows_drop _ _)
  · exact .refl _

theorem grows_shutdown (run : Run) : run.crew.log.Grows run.shutdown.crew.log :=
  (grows_cancelAll run.observer run.crew).trans (grows_settle_run
    { run with crew := run.crew.cancelAll run.observer, outlet := run.outlet.shutdown })

theorem grows_move (run : Run) (step : Step) :
    run.crew.log.Grows (run.move step).1.crew.log := by
  cases step with
  | finish | finishAll => exact grows_finish run _
  | cancel => exact grows_cancel run
  | shutdown => exact grows_shutdown run
  | wait | receive | closeReceiver => exact .refl _

theorem grows_steps (run : Run) (steps : List Step) :
    run.crew.log.Grows (run.steps steps).1.crew.log := by
  induction steps generalizing run with
  | nil => exact .refl _
  | cons step rest ih => exact (grows_move run step).trans (ih (run.step step).1)

theorem steps_append (run : Run) (steps later : List Step) :
    (run.steps (steps ++ later)).1 = ((run.steps steps).1.steps later).1 := by
  induction steps generalizing run with
  | nil => rfl
  | cons step rest ih => exact ih (run.step step).1

theorem play_append (request : Request) (level : Option Level) (plan : Plan) (pool : Pool)
    (steps later : List Step) :
    (play request level plan pool (steps ++ later)).1 =
      ((play request level plan pool steps).1.steps later).1 :=
  steps_append _ steps later

end Run

end Preconnect
