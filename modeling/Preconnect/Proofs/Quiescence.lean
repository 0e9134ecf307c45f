import Preconnect.Proofs.Passive
import Preconnect.Proofs.Polling
import Preconnect.Proofs.Schedule

/-!
Quiescence. A run queue always runs empty, and whenever it has, the warm-up is where a run is in
which the same was decided one step at a time.
-/
namespace Preconnect

namespace Crew

variable {observer : Observer} {crew : Crew}

theorem isOver_of_release {items : List (Nat × Outcome)}
    (allOver : (crew.release observer items).1.isOver = true) : crew.isOver = true := by
  refine release_invariant (fun after => after.isOver = true → crew.isOver = true) items
    (fun item _ waits _ ended => ?_) id allOver
  rw [step_finish waits] at ended
  have settled := (Array.getElem?_eq_some_iff.1 waits).1
  cases isOver_iff.1 ended _ _ (Array.getElem?_setIfInBounds_self_of_lt settled)

end Crew

namespace Run

open Crew

theorem outlet_announce (run : Run) : run.announce.1.outlet = run.outlet := by
  unfold announce
  dsimp only
  split <;> rfl

theorem play_concat (request : Request) (level : Option Level) (plan : Plan) (pool : Pool)
    (steps : List Step) (step : Step) :
    let played := play request level plan pool steps
    let later := play request level plan pool (steps ++ [step])
    later.1 = (played.1.step step).1 ∧
      later.2.flatMap (·.delivered) =
        played.2.flatMap (·.delivered) ++ (played.1.step step).2.delivered ∧
      later.2.flatMap (·.received) =
        played.2.flatMap (·.received) ++ (played.1.step step).2.received := by
  intro played later
  have told : later.2 = played.2 ++ (played.1.steps [step]).2 :=
    congrArg (_ :: ·) (entries_append _ steps [step])
  refine ⟨play_append request level plan pool steps [step], ?_, ?_⟩ <;>
    rw [told, List.flatMap_append] <;>
    exact congrArg (_ ++ ·) (List.append_nil _)

theorem isOver_of_announce {request : Request} (valid : request.invalid? = none)
    (level : Option Level) (plan : Plan) (pool : Pool)
    (ongoing : (ofRequest request level plan pool).announce.1.conclusion = none) :
    (ofRequest request level plan pool).announce.1.crew.isOver = false := by
  cases panics : (Observer.ofRequest request level).panic? request.started with
  | some payload =>
    rw [announce_refused (ofRequest request level plan pool) panics] at ongoing
    cases ongoing
  | none =>
    rw [announce_returned (ofRequest request level plan pool) panics, Bool.eq_false_iff]
    intro allOver
    have first := isOver_iff.1 allOver 0 .fresh (by
      simpa [ofCounts, ofRequest, Array.getElem?_replicate, Nat.pos_iff_ne_zero] using
        request.workers_pos valid)
    cases first

end Run

namespace Scheduler

open Crew Run

variable {scheduler : Scheduler}

theorem Tidy.receive (tidy : scheduler.Tidy) (count : Nat) : (scheduler.receive count).Tidy :=
  ⟨fun plain => tidy.direct (by rwa [← Outlet.isPlain_receive]), tidy.atRest.receive count⟩

theorem Tidy.closeReceiver (tidy : scheduler.Tidy) : scheduler.closeReceiver.Tidy :=
  ⟨fun plain => tidy.direct (by rwa [← Outlet.isPlain_closeReceiver]), tidy.atRest.closeReceiver⟩

theorem Tidy.finish (tidy : scheduler.Tidy) (items : List (Nat × Outcome)) :
    (scheduler.finish items).Tidy := by
  let released : Scheduler := { scheduler with
    run := { scheduler.run with
      crew := (scheduler.run.crew.release scheduler.run.observer items).1 } }
  have tidy' : released.Tidy := ⟨tidy.direct, tidy.atRest⟩
  exact tidy'.spawn (Task.filterMap_event?_workers _)

theorem Tidy.decide (tidy : scheduler.Tidy) (step : Step) : (scheduler.decide step).Tidy := by
  cases step with
  | finish | finishAll => exact tidy.finish _
  | wait => exact tidy
  | cancel =>
    refine ⟨?_, ?_⟩
    · show scheduler.run.cancel.outlet.isPlain = true → _
      rw [outlet_cancel]
      exact tidy.direct
    · show scheduler.run.cancel.outlet.AtRest
      rw [outlet_cancel]
      exact tidy.atRest
  | shutdown =>
    refine Tidy.spawn ⟨?_, Outlet.atRest_shutdown _⟩ rfl
    exact fun plain => tidy.direct (by rwa [← Outlet.isPlain_shutdown])
  | receive count => exact tidy.receive count
  | closeReceiver => exact tidy.closeReceiver

theorem WokenAtEnd.decide (awake : scheduler.WokenAtEnd) (idle : scheduler.ready = [])
    (step : Step) : (scheduler.decide step).WokenAtEnd := by
  have unended (ongoing : scheduler.run.conclusion = none)
      (allOver : scheduler.run.crew.isOver = true) : False := by
    have woken := awake ongoing allOver
    rw [idle] at woken
    cases woken
  cases step with
  | finish | finishAll =>
    exact fun ongoing allOver => (unended ongoing (isOver_of_release allOver)).elim
  | wait | receive | closeReceiver => exact awake
  | cancel =>
    intro ongoing
    cases concluded : scheduler.run.conclusion <;>
      simp [Scheduler.decide, Run.cancel, concluded] at ongoing
  | shutdown => exact fun _ _ => List.mem_append_right _ (List.mem_singleton_self _)

/-- Nothing but turns of workers is between the scheduler as it is now and the run. -/
structure TurnsLeadTo (scheduler : Scheduler) (log : Log) (run : Run) : Prop where
  carries : scheduler.carried = []
  proceeds : scheduler.run.proceed scheduler.workers = run
  grows : log.Grows scheduler.run.crew.log
  silent : scheduler.run.crew.log.events = log.events

theorem turnsLeadTo_finish (idle : scheduler.ready = []) (items : List (Nat × Outcome)) :
    (scheduler.finish items).TurnsLeadTo scheduler.run.crew.log (scheduler.run.finish items).1 := by
  have same : (scheduler.finish items).run.crew.log = scheduler.run.crew.log :=
    log_release scheduler.run.observer scheduler.run.crew items
  have workers : (scheduler.finish items).workers = [] ++ _ :=
    (workers_spawn _ _).trans (congrArg₂ (· ++ ·) (workers_of_idle idle)
      (Task.filterMap_worker?_workers _))
  refine ⟨?_, ?_, same ▸ .refl _, congrArg Log.events same⟩
  · exact (carried_spawn _ _).trans
      (List.append_eq_nil_iff.2 ⟨carried_of_idle idle, Task.filterMap_event?_workers _⟩)
  · rw [workers, List.nil_append]
    rfl

theorem turnsLeadTo_cancel (idle : scheduler.ready = []) :
    (scheduler.decide .cancel).TurnsLeadTo scheduler.run.crew.log scheduler.run.cancel := by
  have workers : (scheduler.decide .cancel).workers = [] := workers_of_idle idle
  refine ⟨carried_of_idle idle, ?_, grows_cancel _, ?_⟩
  · rw [workers]
    refine settle_of_concluded ?_
    show scheduler.run.cancel.conclusion.isSome = true
    cases concluded : scheduler.run.conclusion <;> simp [Run.cancel, concluded]
  · show scheduler.run.cancel.crew.log.events = _
    unfold Run.cancel
    split
    · exact (Log.view_drop_of_none _ _ fun _ => rfl).trans
        (view_cancelAll (fun _ _ => rfl) _ _)
    · rfl

theorem turnsLeadTo_shutdown (idle : scheduler.ready = []) :
    (scheduler.decide .shutdown).TurnsLeadTo scheduler.run.crew.log scheduler.run.shutdown := by
  have workers : (scheduler.decide .shutdown).workers = [] ++ [] :=
    (workers_spawn _ _).trans (congrArg (· ++ _) (workers_of_idle idle))
  refine ⟨?_, ?_, grows_cancelAll _ _, view_cancelAll (fun _ _ => rfl) _ _⟩
  · exact (carried_spawn _ _).trans (List.append_eq_nil_iff.2 ⟨carried_of_idle idle, rfl⟩)
  · rw [workers]
    rfl

theorem turnsLeadTo_outlet (awake : scheduler.WokenAtEnd) (idle : scheduler.ready = [])
    {outlet : Outlet} {later : Scheduler} (still : later.ready = [])
    (same : later.run = { scheduler.run with outlet }) :
    later.TurnsLeadTo scheduler.run.crew.log { scheduler.run with outlet } := by
  refine ⟨carried_of_idle still, ?_, by rw [same]; exact .refl _, by rw [same]⟩
  rw [workers_of_idle still, same, proceed_outlet, awake.proceed_of_idle idle]

theorem turnsLeadTo_decide (awake : scheduler.WokenAtEnd) (idle : scheduler.ready = [])
    (step : Step) :
    (scheduler.decide step).TurnsLeadTo scheduler.run.crew.log (scheduler.run.move step).1 := by
  cases step with
  | finish | finishAll => exact turnsLeadTo_finish idle _
  | cancel => exact turnsLeadTo_cancel idle
  | shutdown => exact turnsLeadTo_shutdown idle
  | wait | receive | closeReceiver => exact turnsLeadTo_outlet awake idle idle rfl

/-- What is decided when nothing is ready comes to the same as a step of the run. -/
theorem upshot_decide (awake : scheduler.WokenAtEnd) (idle : scheduler.ready = []) (step : Step) :
    (scheduler.decide step).upshot =
      ((scheduler.run.step step).1,
        scheduler.delivered ++ (scheduler.run.step step).2.delivered) := by
  have leads := turnsLeadTo_decide awake idle step
  have upshot := upshot_of_silent leads.carries leads.grows leads.silent
  rw [leads.proceeds] at upshot
  have delivered : (scheduler.decide step).delivered = scheduler.delivered := by
    cases step <;> rfl
  rw [delivered] at upshot
  exact upshot

theorem received_decide (scheduler : Scheduler) (step : Step) :
    (scheduler.decide step).received =
      scheduler.received ++ (scheduler.run.step step).2.received := by
  cases step with
  | receive count => rfl
  | finish | finishAll | wait | cancel | shutdown | closeReceiver =>
    exact (List.append_nil _).symm

theorem upshot_emitSince_spawn (scheduler : Scheduler) (size : Nat) (numbers : List Nat) :
    ((scheduler.emitSince size).spawn (numbers.map .worker)).upshot =
      ((scheduler.spawn (numbers.map .worker)).emitSince size).upshot := by
  have same : (scheduler.spawn (numbers.map .worker)).run = scheduler.run := rfl
  rw [emitSince, emitSince, same]
  split
  · rfl
  · refine upshot_congr rfl rfl ?_ ?_
    · simp only [workers_spawn, Task.filterMap_worker?_carriers, List.append_nil]
    · simp only [carried_spawn, Task.filterMap_event?_workers, List.append_nil]

theorem tidy_start (request : Request) (level : Option Level) (plan : Plan) (pool : Pool) :
    (start request level plan pool).Tidy := by
  have atRest := Outlet.atRest_ofHandler request.handler
  unfold start
  dsimp only
  split
  · exact ⟨fun _ => rfl, atRest⟩
  · let run := (Run.ofRequest request level plan pool).announce.1
    have tidy : Tidy { run } := by
      refine ⟨fun _ => rfl, ?_⟩
      show run.outlet.AtRest
      rwa [outlet_announce]
    exact (tidy.emitSince 0).spawn (Task.filterMap_event?_workers _)

theorem wokenAtEnd_start (request : Request) (level : Option Level) (plan : Plan) (pool : Pool) :
    (start request level plan pool).WokenAtEnd := by
  unfold start
  dsimp only
  split
  · exact fun ongoing => by cases ongoing
  · rename_i valid
    have awake : WokenAtEnd { run := (ofRequest request level plan pool).announce.1 } :=
      fun ongoing allOver =>
        absurd allOver (Bool.eq_false_iff.1 (isOver_of_announce valid level plan pool ongoing))
    exact fun ongoing allOver => List.mem_append_left _ (awake.emitSince 0 ongoing allOver)

theorem upshot_spawned (run : Run) (numbers : List Nat) :
    ((({ run } : Scheduler).emitSince 0).spawn (numbers.map .worker)).upshot =
      (((run.proceed numbers).deliverSince 0).2, ((run.proceed numbers).deliverSince 0).1) := by
  let begun : Scheduler := ({ run } : Scheduler).spawn (numbers.map .worker)
  have empty : ({} : Log).Grows run.crew.log := List.nil_prefix
  have size : ({} : Log).size = 0 := rfl
  have workers : begun.workers = numbers := Task.filterMap_worker?_workers numbers
  have carried : begun.carried = [] := Task.filterMap_event?_workers numbers
  have outlet : (run.proceed numbers).outlet = run.outlet := outlet_settle _
  have same := upshot_emitSince begun empty fun _ => carried
  rw [size] at same
  have announced : begun.run = run := rfl
  rw [upshot_emitSince_spawn]
  refine same.trans ?_
  simp only [upshotSince, workers, carried, deliverSince, outlet, announced, List.nil_append]
  rfl

theorem upshot_start (request : Request) (level : Option Level) (plan : Plan) (pool : Pool) :
    (start request level plan pool).upshot =
      ((Run.start request level plan pool).1, (Run.start request level plan pool).2.delivered) := by
  rw [start_eq]
  cases valid : request.invalid? with
  | some error =>
    simp only [start, opened, valid]
    have empty (log : Log) : ({} : Log).Grows log := List.nil_prefix
    exact upshot_of_silent rfl (empty _) rfl
  | none =>
    simp only [start, opened, valid]
    exact upshot_spawned _ _

/-- What a scheduler can have come to, after the decisions that were made when nothing was ready. -/
inductive Reachable (request : Request) (level : Option Level) (plan : Plan) (pool : Pool) :
    List Step → Scheduler → Prop
  | start : Reachable request level plan pool [] (start request level plan pool)
  | poll {decided : List Step} {scheduler : Scheduler}
      (h : Reachable request level plan pool decided scheduler) :
      Reachable request level plan pool decided scheduler.poll
  | decide {decided : List Step} {scheduler : Scheduler}
      (h : Reachable request level plan pool decided scheduler) (idle : scheduler.ready = [])
      (step : Step) : Reachable request level plan pool (decided ++ [step]) (scheduler.decide step)
  | receive {decided : List Step} {scheduler : Scheduler}
      (h : Reachable request level plan pool decided scheduler) (count : Nat) :
      Reachable request level plan pool decided (scheduler.receive count)
  | closeReceiver {decided : List Step} {scheduler : Scheduler}
      (h : Reachable request level plan pool decided scheduler) :
      Reachable request level plan pool decided scheduler.closeReceiver

variable {request : Request} {level : Option Level} {plan : Plan} {pool : Pool}
  {decided : List Step}

theorem Reachable.tidy (h : Reachable request level plan pool decided scheduler) :
    scheduler.Tidy := by
  induction h with
  | start => exact tidy_start request level plan pool
  | poll _ ih => exact ih.poll
  | decide _ _ step ih => exact ih.decide step
  | receive _ count ih => exact ih.receive count
  | closeReceiver _ ih => exact ih.closeReceiver

theorem Reachable.wokenAtEnd (h : Reachable request level plan pool decided scheduler) :
    scheduler.WokenAtEnd := by
  induction h with
  | start => exact wokenAtEnd_start request level plan pool
  | poll _ ih => exact ih.poll
  | decide _ idle step ih => exact ih.decide idle step
  | receive _ _ ih | closeReceiver _ ih => exact ih

theorem received_emitSince (scheduler : Scheduler) (size : Nat) :
    (scheduler.emitSince size).received = scheduler.received := by
  rcases scheduler.emitSince_cases size with ⟨-, same⟩ | ⟨-, same⟩ <;> rw [same] <;> rfl

theorem received_poll (scheduler : Scheduler) : scheduler.poll.received = scheduler.received := by
  obtain ⟨run, _ | ⟨_ | _ | _, ready⟩, delivered, received⟩ := scheduler
  case nil => rfl
  case cons.worker worker =>
    show (turn _ worker).received = received
    unfold turn
    dsimp only
    split <;> exact received_emitSince _ _
  case cons.warmUp => exact received_emitSince _ _
  case cons.carrier => rfl

theorem received_start (request : Request) (level : Option Level) (plan : Plan) (pool : Pool) :
    (start request level plan pool).received = [] := by
  unfold start
  dsimp only
  split
  · rfl
  · exact received_emitSince _ _

structure ComesTo (request : Request) (level : Option Level) (plan : Plan) (pool : Pool)
    (scheduler : Scheduler) (steps : List Step) : Prop where
  run : scheduler.upshot.1 = (play request level plan pool steps).1
  delivered : scheduler.upshot.2 = (play request level plan pool steps).2.flatMap (·.delivered)
  received : scheduler.received = (play request level plan pool steps).2.flatMap (·.received)

theorem ComesTo.step {steps : List Step}
    (h : ComesTo request level plan pool scheduler steps) (step : Step) {later : Scheduler}
    (upshot : later.upshot = ((scheduler.upshot.1.step step).1,
      scheduler.upshot.2 ++ (scheduler.upshot.1.step step).2.delivered))
    (received : later.received =
      scheduler.received ++ (scheduler.upshot.1.step step).2.received) :
    ComesTo request level plan pool later (steps ++ [step]) := by
  obtain ⟨run, delivered', received'⟩ := play_concat request level plan pool steps step
  refine ⟨?_, ?_, ?_⟩
  · rw [upshot, h.run, run]
  · rw [upshot, delivered', ← h.run, ← h.delivered]
  · rw [received, received', ← h.run, ← h.received]

theorem filter_drives_concat (steps : List Step) {step : Step} (passes : step.drives = false) :
    (steps ++ [step]).filter Step.drives = steps.filter Step.drives := by
  rw [List.filter_append, List.filter_cons_of_neg (by simp [passes]), List.filter_nil,
    List.append_nil]

/-- What a scheduler will have come to is what a run has come to in which the same is decided, one
step at a time, and in which as much is taken as was taken from the scheduler so far. -/
theorem Reachable.exists_steps (h : Reachable request level plan pool decided scheduler) :
    ∃ steps, steps.filter Step.drives = decided.filter Step.drives ∧
      ComesTo request level plan pool scheduler steps := by
  induction h with
  | start =>
    have upshot := upshot_start request level plan pool
    refine ⟨[], rfl, congrArg (·.1) upshot, ?_, received_start request level plan pool⟩
    exact (congrArg (·.2) upshot).trans (List.append_nil _).symm
  | @poll decided scheduler before ih =>
    obtain ⟨steps, same, run, delivered, received⟩ := ih
    have upshot := upshot_poll before.tidy.direct
    exact ⟨steps, same, upshot ▸ run, upshot ▸ delivered,
      (received_poll scheduler).trans received⟩
  | @decide decided scheduler before idle step ih =>
    obtain ⟨steps, same, comesTo⟩ := ih
    -- As nothing is ready, the run that was come to is the one that the decision finds.
    have now := upshot_of_idle before.tidy before.wokenAtEnd idle
    refine ⟨steps ++ [step], by rw [List.filter_append, List.filter_append, same],
      comesTo.step step ?_ ?_⟩
    · rw [now]
      exact upshot_decide before.wokenAtEnd idle step
    · rw [now]
      exact received_decide scheduler step
  | @receive decided scheduler before count ih =>
    obtain ⟨steps, same, comesTo⟩ := ih
    obtain ⟨taken, upshot⟩ := scheduler.upshot_receive count
    -- The run can take more by the time it takes, so it must not be asked for more than came.
    let step := Step.receive (scheduler.run.outlet.receive count).1.length
    have stepped : scheduler.upshot.1.step step = _ :=
      step_receive scheduler.upshot.1 (Outlet.atRest_deliver _ _) _
    refine ⟨steps ++ [step], (filter_drives_concat steps rfl).trans same,
      comesTo.step step ?_ ?_⟩
    · rw [stepped, upshot, List.append_nil]
    · rw [stepped, taken]
      rfl
  | @closeReceiver decided scheduler before ih =>
    obtain ⟨steps, same, comesTo⟩ := ih
    have stepped := step_closeReceiver scheduler.upshot.1 (Outlet.atRest_deliver _ _)
    refine ⟨steps ++ [.closeReceiver], (filter_drives_concat steps rfl).trans same,
      comesTo.step .closeReceiver ?_ ?_⟩
    · rw [stepped, upshot_closeReceiver, List.append_nil]
    · rw [stepped, List.append_nil]
      rfl

/-- Whenever nothing is ready, the scheduler is where a run is in which the same is decided, one
step at a time, and everything is taken when nothing is left to do. -/
theorem Reachable.idle (h : Reachable request level plan pool decided scheduler)
    (idle : scheduler.ready = []) :
    ∃ steps, steps.filter Step.drives = decided.filter Step.drives ∧
      let played := play request level plan pool steps
      scheduler.run = played.1 ∧ scheduler.delivered = played.2.flatMap (·.delivered) ∧
        scheduler.received = played.2.flatMap (·.received) := by
  obtain ⟨steps, same, run, delivered, received⟩ := h.exists_steps
  rw [upshot_of_idle h.tidy h.wokenAtEnd idle] at run delivered
  exact ⟨steps, same, run, delivered, received⟩

/-- When nothing is ready, what was taken from a channel, what can be taken and what waits in front
of it are the events that were made for it, in their order. -/
theorem Reachable.conveys {capacity : Nat}
    (h : Reachable request level plan pool decided scheduler) (idle : scheduler.ready = [])
    (handled : request.handler = some (.channel capacity)) (roomy : 0 < capacity) :
    scheduler.run.outlet.Conveys capacity scheduler.run.crew.log.events scheduler.received := by
  obtain ⟨steps, -, run, -, received⟩ := h.idle idle
  have upheld := Outlet.upheld_conveys roomy
  rw [← handled] at upheld
  rw [run, received]
  exact upheld_play upheld level plan pool fun _ _ => trivial

/-- Schedulers in which the same is decided match when nothing is ready in either of them, whatever
order their turns were in and however many carriers had some. -/
theorem Reachable.matches {request' : Request} {level' : Option Level} {decided' : List Step}
    {scheduler' : Scheduler} (h : Reachable request level plan pool decided scheduler)
    (h' : Reachable request' level' plan pool decided' scheduler') (idle : scheduler.ready = [])
    (idle' : scheduler'.ready = []) (agrees : request.Agrees request')
    (same : decided'.filter Step.drives = decided.filter Step.drives)
    (harmless : scheduler.run.crew.log.Harmless request.handler)
    (harmless' : scheduler'.run.crew.log.Harmless request'.handler) :
    scheduler.run.Matches scheduler'.run := by
  obtain ⟨steps, drives, run, -, -⟩ := h.idle idle
  obtain ⟨steps', drives', run', -, -⟩ := h'.idle idle'
  rw [run] at harmless ⊢
  rw [run'] at harmless' ⊢
  exact matches_play agrees (drives'.trans (same.trans drives.symm)) harmless harmless'

end Scheduler

end Preconnect
