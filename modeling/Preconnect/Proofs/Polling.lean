import Mathlib.Logic.Function.Iterate
import Preconnect.Proofs.Commuting
import Preconnect.Run.Scheduler

/-!
Polls. Workers, the warm-up and the carriers of events share one run queue, but none of them does
anything to what the others will do: whoever has the next turn, it comes to the same in the end. And
there is an end, as nobody makes work for those whose turns made work for it.
-/
namespace Preconnect

theorem Log.since_append {log middle later : Log} (first : log.Grows middle)
    (second : middle.Grows later) :
    later.since log.size = middle.since log.size ++ later.since middle.size := by
  obtain ⟨events, grown⟩ := first
  obtain ⟨more, grown'⟩ := second
  have size : log.size = log.toList.length := Array.length_toList.symm
  have size' : middle.size = middle.toList.length := Array.length_toList.symm
  rw [since_eq_drop, since_eq_drop, since_eq_drop, size', ← grown', ← grown, size,
    List.drop_left, List.append_assoc, List.drop_left, ← List.append_assoc, List.drop_left]

namespace Crew

variable {observer : Observer} {plan : Plan} {crew : Crew}

theorem turns_of_isOver (observer : Observer) (plan : Plan) (allOver : crew.isOver = true)
    (workers : List Nat) : crew.turns observer plan workers = crew := by
  refine turns_invariant (· = crew) (fun worker same => ?_) workers rfl
  refine turn_invariant (· = crew) (fun before action _ same => ?_) same
  rw [same, step_of_isOver observer allOver]

theorem size_turn (observer : Observer) (plan : Plan) (crew : Crew) (worker : Nat) :
    (crew.turn observer plan worker).stages.size = crew.stages.size :=
  turn_invariant (fun after => after.stages.size = crew.stages.size)
    (fun before action _ same => by
      rcases step_eq_or_change observer (allows_anything before action) with stays | change
      · rw [stays, same]
      · exact change.size_stages.trans same) rfl

theorem isOver_of_turn {worker : Nat}
    (allOver : (crew.turn observer plan worker).isOver = true)
    (goesOn : ¬ (crew.turn observer plan worker).stages[worker]?.any Stage.hasEnded = true) :
    crew.isOver = true := by
  rw [isOver_iff] at allOver ⊢
  intro other stage here
  by_cases same : other = worker
  · subst same
    obtain ⟨bound, -⟩ := Array.getElem?_eq_some_iff.1 here
    rw [← size_turn observer plan crew other] at bound
    have there := Array.getElem?_eq_getElem bound
    rw [there] at goesOn
    exact absurd (allOver other _ there) goesOn
  · exact allOver other stage ((stages_turn_of_ne same).trans here)

end Crew

namespace Run

open Crew

theorem grows_proceed (run : Run) (workers : List Nat) :
    run.crew.log.Grows (run.proceed workers).crew.log := by
  have turned := grows_turns run.observer run.plan run.crew workers
  exact turned.trans
    (grows_settle_run { run with crew := run.crew.turns run.observer run.plan workers })

theorem emittedSince_append (run : Run) {log middle : Log} (first : log.Grows middle)
    (second : middle.Grows run.crew.log) :
    run.emittedSince log.size =
      (middle.since log.size).filterMap Happening.emitted? ++ run.emittedSince middle.size := by
  rw [emittedSince, Log.since_append first second, List.filterMap_append, emittedSince]

theorem proceed_outlet (run : Run) (outlet : Outlet) (workers : List Nat) :
    { run with outlet }.proceed workers = { run.proceed workers with outlet } := by
  unfold proceed settle
  dsimp only
  split <;> rfl

theorem settle_proceed (run : Run) (workers : List Nat) :
    run.settle.proceed workers = run.proceed workers := by
  by_cases ends : (run.conclusion.isNone && run.crew.isOver) = true
  · have allOver := (Bool.and_eq_true_iff.1 ends).2
    have settled : run.settle.HasEnded := by
      unfold settle
      rw [if_pos ends]
      refine ⟨rfl, ?_⟩
      rwa [isOver, stages_settle]
    rw [proceed, proceed, turns_of_isOver _ _ settled.deserted, turns_of_isOver _ _ allOver]
    exact settle_of_concluded settled.concluded
  · rw [settle, if_neg ends]

theorem isOver_of_settle {run : Run} (ongoing : run.settle.conclusion = none) :
    run.settle.crew.isOver = false := by
  unfold settle at ongoing ⊢
  split at ongoing
  · cases ongoing
  · rename_i goesOn
    rw [if_neg goesOn, Bool.eq_false_iff]
    exact fun allOver =>
      goesOn (Bool.and_eq_true_iff.2 ⟨Option.isNone_iff_eq_none.2 ongoing, allOver⟩)

theorem emittedSince_of_silent (run : Run) {log middle : Log} (first : log.Grows middle)
    (second : middle.Grows run.crew.log) (silent : middle.events = log.events) :
    run.emittedSince log.size = run.emittedSince middle.size := by
  have nothing : (middle.since log.size).filterMap Happening.emitted? = [] := by
    have view := Log.view_since first Happening.emitted?
    exact List.append_right_eq_self.1 (view.symm.trans silent)
  rw [emittedSince_append run first second, nothing, List.nil_append]

end Run

namespace Task

def isWarmUp : Task → Bool
  | warmUp => true
  | worker _ | carrier _ => false

def worker? : Task → Option Nat
  | worker number => some number
  | _ => none

def event? : Task → Option Event
  | carrier event => some event
  | _ => none

theorem filterMap_worker?_carriers (events : List Event) :
    (events.map carrier).filterMap worker? = [] := by
  simp [worker?]

theorem filterMap_event?_carriers (events : List Event) :
    (events.map carrier).filterMap event? = events := by
  rw [List.filterMap_map]
  exact List.filterMap_some

theorem filterMap_worker?_workers (numbers : List Nat) :
    (numbers.map worker).filterMap worker? = numbers := by
  rw [List.filterMap_map]
  exact List.filterMap_some

theorem filterMap_event?_workers (numbers : List Nat) :
    (numbers.map worker).filterMap event? = [] := by
  simp [event?]

end Task

namespace Scheduler

open Crew Run

variable {scheduler : Scheduler}

def workers (scheduler : Scheduler) : List Nat := scheduler.ready.filterMap Task.worker?

def carried (scheduler : Scheduler) : List Event := scheduler.ready.filterMap Task.event?

theorem workers_spawn (scheduler : Scheduler) (tasks : List Task) :
    (scheduler.spawn tasks).workers = scheduler.workers ++ tasks.filterMap Task.worker? :=
  List.filterMap_append

theorem carried_spawn (scheduler : Scheduler) (tasks : List Task) :
    (scheduler.spawn tasks).carried = scheduler.carried ++ tasks.filterMap Task.event? :=
  List.filterMap_append

theorem emitSince_cases (scheduler : Scheduler) (size : Nat) :
    scheduler.run.outlet.isPlain = true ∧
        scheduler.emitSince size = scheduler.deliver (scheduler.run.emittedSince size) ∨
      scheduler.run.outlet.isPlain = false ∧
        scheduler.emitSince size =
          scheduler.spawn ((scheduler.run.emittedSince size).map .carrier) := by
  cases plain : scheduler.run.outlet.isPlain with
  | true => exact .inl ⟨rfl, if_pos plain⟩
  | false => exact .inr ⟨rfl, if_neg (by simp [plain])⟩

/-- The run once all that is ready has had its turn, and all that has reached a callback by then, if
what was emitted since the log had the given size is still to be passed on. -/
def upshotSince (scheduler : Scheduler) (size : Nat) : Run × List Event :=
  let run := scheduler.run.proceed scheduler.workers
  let answer := scheduler.run.outlet.deliver (scheduler.carried ++ run.emittedSince size)
  ({ run with outlet := answer.2 }, scheduler.delivered ++ answer.1)

def upshot (scheduler : Scheduler) : Run × List Event :=
  scheduler.upshotSince scheduler.run.crew.log.size

theorem upshotSince_deliver (scheduler : Scheduler) (events : List Event) (size : Nat) :
    (scheduler.deliver events).upshotSince size =
      let run := scheduler.run.proceed scheduler.workers
      let answer :=
        scheduler.run.outlet.deliver (events ++ (scheduler.carried ++ run.emittedSince size))
      ({ run with outlet := answer.2 }, scheduler.delivered ++ answer.1) := by
  have proceeds : (scheduler.deliver events).run.proceed scheduler.workers = _ :=
    scheduler.run.proceed_outlet (scheduler.run.outlet.deliver events).2 scheduler.workers
  have workers : (scheduler.deliver events).workers = scheduler.workers := rfl
  dsimp only
  rw [upshotSince, workers, proceeds, scheduler.run.outlet.deliver_append, ← List.append_assoc]
  rfl

def NoNeedlessCarrier (scheduler : Scheduler) : Prop :=
  scheduler.run.outlet.isPlain = true → scheduler.carried = []

theorem upshot_emitSince (scheduler : Scheduler) {log : Log}
    (grows : log.Grows scheduler.run.crew.log) (direct : scheduler.NoNeedlessCarrier) :
    (scheduler.emitSince log.size).upshot = scheduler.upshotSince log.size := by
  have split := (scheduler.run.proceed scheduler.workers).emittedSince_append grows
    (scheduler.run.grows_proceed scheduler.workers)
  rcases scheduler.emitSince_cases log.size with ⟨plain, delivers⟩ | ⟨-, spawns⟩
  · rw [delivers, upshot, upshotSince_deliver, upshotSince, split, direct plain]
    rfl
  · rw [spawns, upshot, upshotSince, workers_spawn, carried_spawn, Task.filterMap_worker?_carriers,
      Task.filterMap_event?_carriers, List.append_nil, List.append_assoc, upshotSince, split]
    rfl

/-- The order of what is ready matters to nothing but the order of workers and that of events. -/
theorem upshot_congr {scheduler' : Scheduler} (run : scheduler'.run = scheduler.run)
    (delivered : scheduler'.delivered = scheduler.delivered)
    (workers : scheduler'.workers = scheduler.workers)
    (carried : scheduler'.carried = scheduler.carried) : scheduler'.upshot = scheduler.upshot := by
  simp only [upshot, upshotSince, run, delivered, workers, carried]

theorem upshot_warmUp (scheduler : Scheduler) :
    (scheduler.spawn [.warmUp]).upshot = scheduler.upshot :=
  upshot_congr rfl rfl ((workers_spawn scheduler [.warmUp]).trans (List.append_nil _))
    ((carried_spawn scheduler [.warmUp]).trans (List.append_nil _))

theorem upshot_turn (direct : scheduler.NoNeedlessCarrier) (worker : Nat) :
    (scheduler.turn worker).upshot =
      (scheduler.work worker).upshotSince scheduler.run.crew.log.size := by
  have same : ((scheduler.work worker).emitSince scheduler.run.crew.log.size).upshot = _ :=
    upshot_emitSince (scheduler.work worker)
      (grows_turn scheduler.run.observer scheduler.run.plan worker scheduler.run.crew) direct
  unfold turn
  dsimp only
  split
  · exact (upshot_warmUp _).trans same
  · exact same

theorem upshot_settle (direct : scheduler.NoNeedlessCarrier) :
    scheduler.settle.upshot = scheduler.upshot := by
  let settled : Scheduler := { scheduler with run := scheduler.run.settle }
  have outlet : settled.run.outlet = scheduler.run.outlet := outlet_settle scheduler.run
  have same : scheduler.settle.upshot = settled.upshotSince scheduler.run.crew.log.size :=
    upshot_emitSince settled (grows_settle_run scheduler.run) (by rwa [NoNeedlessCarrier, outlet])
  have proceeds : settled.run.proceed settled.workers = scheduler.run.proceed scheduler.workers :=
    scheduler.run.settle_proceed scheduler.workers
  rw [same, upshotSince, proceeds, outlet]
  rfl

/-- Whoever has the next turn, it comes to the same in the end. -/
theorem upshot_poll (direct : scheduler.NoNeedlessCarrier) :
    scheduler.poll.upshot = scheduler.upshot := by
  obtain ⟨run, _ | ⟨_ | _ | _, ready⟩, delivered, received⟩ := scheduler
  case nil => rfl
  case cons.worker worker =>
    have rest : NoNeedlessCarrier ⟨run, ready, delivered, received⟩ := direct
    exact upshot_turn rest worker
  case cons.warmUp =>
    have rest : NoNeedlessCarrier ⟨run, ready, delivered, received⟩ := direct
    exact upshot_settle rest
  case cons.carrier event =>
    exact upshotSince_deliver ⟨run, ready, delivered, received⟩ [event] run.crew.log.size

theorem upshot_receive (scheduler : Scheduler) (count : Nat) :
    let taken := (scheduler.run.outlet.receive count).1
    let rest := scheduler.upshot.1.outlet.receive taken.length
    rest.1 = taken ∧
      (scheduler.receive count).upshot =
        ({ scheduler.upshot.1 with outlet := rest.2 }, scheduler.upshot.2) := by
  intro taken rest
  have commutes : rest = _ := scheduler.run.outlet.receive_deliver _ count
  rw [commutes]
  refine ⟨rfl, ?_⟩
  have proceeds : (scheduler.receive count).run.proceed scheduler.workers = _ :=
    scheduler.run.proceed_outlet (scheduler.run.outlet.receive count).2 scheduler.workers
  have workers : (scheduler.receive count).workers = scheduler.workers := rfl
  rw [upshot, upshotSince, workers, proceeds]
  exact Prod.ext rfl
    (congrArg (scheduler.delivered ++ ·) (scheduler.run.outlet.delivered_receive _ count))

theorem upshot_closeReceiver (scheduler : Scheduler) :
    scheduler.closeReceiver.upshot =
      ({ scheduler.upshot.1 with outlet := scheduler.upshot.1.outlet.closeReceiver },
        scheduler.upshot.2) := by
  have proceeds : scheduler.closeReceiver.run.proceed scheduler.workers = _ :=
    scheduler.run.proceed_outlet scheduler.run.outlet.closeReceiver scheduler.workers
  have workers : scheduler.closeReceiver.workers = scheduler.workers := rfl
  have outlet : scheduler.closeReceiver.run.outlet = scheduler.run.outlet.closeReceiver := rfl
  rw [upshot, upshotSince, workers, proceeds, outlet, Outlet.closeReceiver_deliver]
  rfl

/-- No event has a task that needs none, and none waits where it could go in. -/
structure Tidy (scheduler : Scheduler) : Prop where
  direct : scheduler.NoNeedlessCarrier
  atRest : scheduler.run.outlet.AtRest

theorem Tidy.deliver (tidy : scheduler.Tidy) (events : List Event) :
    (scheduler.deliver events).Tidy :=
  ⟨fun plain => tidy.direct (by rwa [← Outlet.isPlain_deliver]), Outlet.atRest_deliver _ events⟩

theorem Tidy.spawn (tidy : scheduler.Tidy) {tasks : List Task}
    (carry : tasks.filterMap Task.event? = []) : (scheduler.spawn tasks).Tidy :=
  ⟨fun plain => by rw [carried_spawn, tidy.direct plain, carry, List.append_nil], tidy.atRest⟩

theorem Tidy.emitSince (tidy : scheduler.Tidy) (size : Nat) : (scheduler.emitSince size).Tidy := by
  rcases scheduler.emitSince_cases size with ⟨-, delivers⟩ | ⟨needsTasks, spawns⟩
  · rw [delivers]
    exact tidy.deliver _
  · rw [spawns]
    refine ⟨fun plain => ?_, tidy.atRest⟩
    cases needsTasks.symm.trans plain

theorem Tidy.turn (tidy : scheduler.Tidy) (worker : Nat) : (scheduler.turn worker).Tidy := by
  have worked : (scheduler.work worker).Tidy := ⟨tidy.direct, tidy.atRest⟩
  unfold Scheduler.turn
  dsimp only
  split
  · exact (worked.emitSince _).spawn rfl
  · exact worked.emitSince _

theorem Tidy.settle (tidy : scheduler.Tidy) : scheduler.settle.Tidy := by
  have settled : Tidy { scheduler with run := scheduler.run.settle } := by
    refine ⟨?_, ?_⟩
    · rw [NoNeedlessCarrier, outlet_settle]
      exact tidy.direct
    · rw [outlet_settle]
      exact tidy.atRest
  exact settled.emitSince _

theorem Tidy.poll (tidy : scheduler.Tidy) : scheduler.poll.Tidy := by
  obtain ⟨run, _ | ⟨task, ready⟩, delivered, received⟩ := scheduler
  case nil => exact tidy
  case cons =>
    have rest : Tidy ⟨run, ready, delivered, received⟩ := by
      refine ⟨fun plain => ?_, tidy.atRest⟩
      have none : List.filterMap Task.event? (task :: ready) = [] := tidy.direct plain
      rw [List.filterMap_eq_nil_iff, List.forall_mem_cons] at none
      exact List.filterMap_eq_nil_iff.2 none.2
    cases task with
    | worker worker => exact rest.turn worker
    | warmUp => exact rest.settle
    | carrier event => exact rest.deliver [event]

def WokenAtEnd (scheduler : Scheduler) : Prop :=
  scheduler.run.conclusion = none → scheduler.run.crew.isOver = true → .warmUp ∈ scheduler.ready

theorem WokenAtEnd.emitSince (awake : scheduler.WokenAtEnd) (size : Nat) :
    (scheduler.emitSince size).WokenAtEnd := by
  rcases scheduler.emitSince_cases size with ⟨-, same⟩ | ⟨-, same⟩ <;> rw [same]
  · exact awake
  · exact fun ongoing allOver => List.mem_append_left _ (awake ongoing allOver)

theorem WokenAtEnd.turn (awake : scheduler.WokenAtEnd) (worker : Nat) :
    (scheduler.turn worker).WokenAtEnd := by
  unfold Scheduler.turn
  dsimp only
  split
  · exact fun _ _ => List.mem_append_right _ (List.mem_singleton_self _)
  · rename_i goesOn
    have worked : (scheduler.work worker).WokenAtEnd := fun ongoing allOver =>
      awake ongoing (isOver_of_turn allOver goesOn)
    exact worked.emitSince _

theorem wokenAtEnd_settle (scheduler : Scheduler) : scheduler.settle.WokenAtEnd := by
  have settled : WokenAtEnd { scheduler with run := scheduler.run.settle } := fun ongoing allOver =>
    absurd allOver (Bool.eq_false_iff.1 (isOver_of_settle ongoing))
  exact settled.emitSince _

theorem WokenAtEnd.poll (awake : scheduler.WokenAtEnd) : scheduler.poll.WokenAtEnd := by
  obtain ⟨run, _ | ⟨task, ready⟩, delivered, received⟩ := scheduler
  case nil => exact awake
  case cons =>
    have rest (other : Task.warmUp ≠ task) : WokenAtEnd ⟨run, ready, delivered, received⟩ :=
      fun ongoing allOver => List.mem_of_ne_of_mem other (awake ongoing allOver)
    cases task with
    | worker worker => exact (rest (by simp)).turn worker
    | warmUp => exact wokenAtEnd_settle _
    | carrier event => exact rest (by simp)

theorem workers_of_idle (idle : scheduler.ready = []) : scheduler.workers = [] := by
  rw [workers, idle, List.filterMap_nil]

theorem carried_of_idle (idle : scheduler.ready = []) : scheduler.carried = [] := by
  rw [carried, idle, List.filterMap_nil]

theorem WokenAtEnd.proceed_of_idle (awake : scheduler.WokenAtEnd) (idle : scheduler.ready = []) :
    scheduler.run.proceed [] = scheduler.run := by
  show scheduler.run.settle = scheduler.run
  unfold Run.settle
  rw [if_neg]
  intro ends
  obtain ⟨ongoing, allOver⟩ := Bool.and_eq_true_iff.1 ends
  have woken := awake (Option.isNone_iff_eq_none.1 ongoing) allOver
  rw [idle] at woken
  cases woken

theorem upshot_of_silent {log : Log} (carries : scheduler.carried = [])
    (grows : log.Grows scheduler.run.crew.log)
    (silent : scheduler.run.crew.log.events = log.events) :
    let run := scheduler.run.proceed scheduler.workers
    scheduler.upshot =
      ((run.deliverSince log.size).2, scheduler.delivered ++ (run.deliverSince log.size).1) := by
  intro run
  have since := run.emittedSince_of_silent grows (scheduler.run.grows_proceed _) silent
  have outlet : run.outlet = scheduler.run.outlet := outlet_settle _
  simp only [upshot, upshotSince, carries, deliverSince, List.nil_append, since, outlet]
  rfl

theorem upshot_of_idle (tidy : scheduler.Tidy) (awake : scheduler.WokenAtEnd)
    (idle : scheduler.ready = []) : scheduler.upshot = (scheduler.run, scheduler.delivered) := by
  have upshot := upshot_of_silent (carried_of_idle idle) (.refl _) rfl
  dsimp only at upshot
  rwa [workers_of_idle idle, awake.proceed_of_idle idle, deliverSince_of_atRest tidy.atRest,
    List.append_nil] at upshot

def wakes (scheduler : Scheduler) : Nat := scheduler.ready.countP Task.isWarmUp

theorem workers_emitSince (scheduler : Scheduler) (size : Nat) :
    (scheduler.emitSince size).workers = scheduler.workers := by
  rcases scheduler.emitSince_cases size with ⟨-, same⟩ | ⟨-, same⟩ <;> rw [same]
  · rfl
  · rw [workers_spawn, Task.filterMap_worker?_carriers, List.append_nil]

theorem workers_turn (scheduler : Scheduler) (worker : Nat) :
    (scheduler.turn worker).workers = scheduler.workers := by
  have worked : ((scheduler.work worker).emitSince scheduler.run.crew.log.size).workers = _ :=
    workers_emitSince (scheduler.work worker) _
  unfold turn
  dsimp only
  split
  · rw [workers_spawn, worked]
    exact List.append_nil _
  · exact worked

theorem wakes_emitSince (scheduler : Scheduler) (size : Nat) :
    (scheduler.emitSince size).wakes = scheduler.wakes := by
  rcases scheduler.emitSince_cases size with ⟨-, same⟩ | ⟨-, same⟩ <;> rw [same]
  · rfl
  · have carriers : ∀ task ∈ (scheduler.run.emittedSince size).map Task.carrier,
        ¬ task.isWarmUp = true := by
      intro task member
      obtain ⟨event, -, rfl⟩ := List.mem_map.1 member
      exact Bool.false_ne_true
    rw [wakes, spawn, List.countP_append, List.countP_eq_zero.2 carriers]
    rfl

/-- A turn of a worker may make work for the warm-up and for carriers, and a turn of the warm-up may
make work for carriers, but the work of carriers is the end of it. -/
def NearerToIdle (later scheduler : Scheduler) : Prop :=
  Prod.Lex (· < ·) (Prod.Lex (· < ·) (· < ·))
    (later.workers.length, later.wakes, later.ready.length)
    (scheduler.workers.length, scheduler.wakes, scheduler.ready.length)

theorem nearerToIdle_poll {task : Task} {ready : List Task}
    (next : scheduler.ready = task :: ready) :
    scheduler.poll.NearerToIdle scheduler := by
  obtain ⟨run, _, delivered, received⟩ := scheduler
  obtain rfl := next
  let rest : Scheduler := ⟨run, ready, delivered, received⟩
  cases task with
  | worker worker =>
    have workers : (rest.turn worker).workers = rest.workers := rest.workers_turn worker
    apply Prod.Lex.left
    show (rest.turn worker).workers.length < rest.workers.length + 1
    rw [workers]
    exact Nat.lt_succ_self _
  | warmUp =>
    have workers : rest.settle.workers = rest.workers := workers_emitSince _ _
    have wakes : rest.settle.wakes = rest.wakes := wakes_emitSince _ _
    have fewer : ready.countP Task.isWarmUp < (Task.warmUp :: ready).countP Task.isWarmUp := by
      rw [List.countP_cons_of_pos rfl]
      exact Nat.lt_succ_self _
    show rest.settle.NearerToIdle _
    unfold NearerToIdle
    rw [workers, wakes]
    exact .right _ (.left _ _ fewer)
  | carrier event =>
    exact .right _ (.right _ (Nat.lt_succ_self _))

/-- If nothing comes in between, it does not take forever until nothing is ready. -/
theorem exists_idle (scheduler : Scheduler) : ∃ count, (poll^[count] scheduler).ready = [] := by
  -- A turn may well make the queue longer, so its length alone does not count.
  have wellFounded : WellFounded NearerToIdle := InvImage.wf
    (fun scheduler : Scheduler =>
      (scheduler.workers.length, scheduler.wakes, scheduler.ready.length))
    (Prod.lex Nat.lt_wfRel (Prod.lex Nat.lt_wfRel Nat.lt_wfRel)).wf
  induction scheduler using wellFounded.induction with
  | _ scheduler ih =>
    cases next : scheduler.ready with
    | nil => exact ⟨0, next⟩
    | cons task ready =>
      obtain ⟨count, idle⟩ := ih scheduler.poll (nearerToIdle_poll next)
      exact ⟨count + 1, idle⟩

end Scheduler

end Preconnect
