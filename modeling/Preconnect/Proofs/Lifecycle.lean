import Mathlib.Data.List.Infix
import Preconnect.Proofs.Concurrency
import Preconnect.Proofs.Dispatch
import Preconnect.Proofs.Tracing

/-!
The lives of workers as they are traced. A worker tells of its first turn and of its end, unless it
comes to harm; then the coordinator tells of that, once nobody is left and before it tells of
anything else.
-/
namespace Preconnect

inductive Milestone
  | firstTurn
  /-- The handler panicked when the worker called it. -/
  | panic (payload : Payload)
  /-- The worker was cancelled before it had come to an end. -/
  | cancellation
  deriving DecidableEq

namespace Record

def worker? (record : Record) : Option Nat :=
  match record.value? "workerId" with
  | some (.number worker) => some worker
  | _ => none

@[simp] theorem worker?_workerStarted (worker : Nat) :
    (workerStarted worker).worker? = some worker := rfl

@[simp] theorem worker?_workerStopped (worker : Nat) :
    (workerStopped worker).worker? = some worker := rfl

@[simp] theorem worker?_workerTerminated (worker : Nat) (mishap : Mishap) :
    (workerTerminated worker mishap).worker? = some worker := rfl

@[simp] theorem worker?_event (event : Event) : event.record.worker? = none := by
  obtain ⟨pool, notice⟩ := event
  cases pool <;> cases notice <;> rfl

/-- A record from the time in which the crew works, after the warm-up was announced. -/
inductive OfWork (observer : Observer) (first : Notice) : Record → Prop
  | announced : OfWork observer first (observer.event first).record
  | started (worker : Nat) : OfWork observer first (workerStarted worker)
  | stopped (worker : Nat) : OfWork observer first (workerStopped worker)
  | told (attempt : Nat) (result : Except Error Connection) :
    OfWork observer first (observer.event (.ofResult attempt result)).record

inductive OfClosing (observer : Observer) : Record → Prop
  | closed (attempt : Nat) : OfClosing observer (observer.event (.closed attempt)).record
  | failed (failure : Failure) (closed : UInt32) :
    OfClosing observer (observer.event (.failed failure closed)).record
  | succeeded (established failed : UInt32) :
    OfClosing observer (observer.event (.succeeded established failed)).record

variable {observer : Observer} {first : Notice} {record : Record}

theorem OfWork.level_ne (work : record.OfWork observer first) : record.level ≠ .warn := by
  cases work <;> (intro impossible; cases impossible)

theorem OfClosing.level_ne (closing : record.OfClosing observer) : record.level ≠ .warn := by
  cases closing <;> (intro impossible; cases impossible)

theorem OfClosing.worker?_eq (closing : record.OfClosing observer) : record.worker? = none := by
  cases closing <;> exact worker?_event _

end Record

abbrev Log.about (log : Log) (worker : Nat) : List Record :=
  log.records.filter fun record => record.worker? = some worker

namespace Observer

def Full (observer : Observer) : Prop := ∀ level, observer.collects level = true

variable {observer : Observer}

theorem records_trace (full : observer.Full) (log : Log) (record : Record) :
    (observer.trace log record).records = log.records ++ [record] := by
  rw [trace, if_pos (full record.level), Log.records, Log.view_add]
  rfl

theorem records_emit (full : observer.Full) (log : Log) (notice : Notice) :
    (observer.emit log notice).records = log.records ++ [(observer.event notice).record] := by
  have wants : observer.wantsEvents = true := by rw [wantsEvents, full .debug, Bool.or_true]
  rw [emit, if_pos wants, ← records_trace full log, Log.records, Log.view_add]
  exact List.append_nil _

variable {holds : Record → Prop} {log : Log}

theorem all_trace {last : Record} (full : observer.Full)
    (before : ∀ record ∈ log.records, holds record) (now : holds last) :
    ∀ record ∈ (observer.trace log last).records, holds record := by
  rw [records_trace full, List.forall_mem_append, List.forall_mem_singleton]
  exact ⟨before, now⟩

theorem all_emit {notice : Notice} (full : observer.Full)
    (before : ∀ record ∈ log.records, holds record) (now : holds (observer.event notice).record) :
    ∀ record ∈ (observer.emit log notice).records, holds record := by
  rw [records_emit full, List.forall_mem_append, List.forall_mem_singleton]
  exact ⟨before, now⟩

theorem about_trace {record : Record} {worker : Nat} (full : observer.Full) (log : Log)
    (own : record.worker? = some worker) :
    (observer.trace log record).about worker = log.about worker ++ [record] := by
  rw [Log.about, records_trace full, List.filter_append]
  simp [own]

theorem about_emit (full : observer.Full) (log : Log) (notice : Notice) (worker : Nat) :
    (observer.emit log notice).about worker = log.about worker := by
  rw [Log.about, records_emit full, List.filter_append]
  simp

end Observer

/-- What is known of a worker at a stage: its milestones, and what has been traced about it. -/
inductive Life (worker : Nat) : Stage → List Milestone → List Record → Prop
  | fresh : Life worker .fresh [] []
  | working {stage : Stage} (begun : stage ≠ .fresh) (alive : stage.hasEnded = false) :
    Life worker stage [.firstTurn] [.workerStarted worker]
  | stopped :
    Life worker (.ended .stopped) [.firstTurn] [.workerStarted worker, .workerStopped worker]
  | panicked (payload : Payload) :
    Life worker (.ended (.panicked payload)) [.firstTurn, .panic payload] [.workerStarted worker]
  | cancelled :
    Life worker (.ended .cancelled) [.firstTurn, .cancellation] [.workerStarted worker]
  | cancelledFresh : Life worker (.ended .cancelled) [.cancellation] []

/-- All that is traced about a worker once the coordinator goes on. -/
inductive Lifecycle (worker : Nat) : List Milestone → List Record → Prop
  | stopped : Lifecycle worker [.firstTurn] [.workerStarted worker, .workerStopped worker]
  | panicked (payload : Payload) : Lifecycle worker [.firstTurn, .panic payload]
      [.workerStarted worker, .workerTerminated worker (.workerPanicked payload)]
  | cancelled : Lifecycle worker [.firstTurn, .cancellation]
      [.workerStarted worker, .workerTerminated worker .workerCancelled]
  | cancelledFresh :
    Lifecycle worker [.cancellation] [.workerTerminated worker .workerCancelled]

section
variable {worker : Nat} {old new : Stage} {milestones : List Milestone} {records : List Record}

theorem Life.start (life : Life worker .fresh milestones records) :
    Life worker .idle (milestones ++ [.firstTurn]) (records ++ [.workerStarted worker]) := by
  cases life with
  | fresh => exact .working (by simp) rfl
  | working begun => exact absurd rfl begun

theorem Life.goOn (life : Life worker old milestones records) (begun : old ≠ .fresh)
    (alive : old.hasEnded = false) (begun' : new ≠ .fresh) (alive' : new.hasEnded = false) :
    Life worker new milestones records := by
  cases life with
  | fresh => exact absurd rfl begun
  | working => exact .working begun' alive'
  | stopped | panicked | cancelled | cancelledFresh => cases alive

theorem Life.stop (life : Life worker .idle milestones records) :
    Life worker (.ended .stopped) milestones (records ++ [.workerStopped worker]) := by
  cases life with
  | working => exact .stopped

theorem Life.die {attempt : Nat} {result : Except Error Connection}
    (life : Life worker (.recorded attempt result) milestones records) (payload : Payload) :
    Life worker (.ended (.panicked payload)) (milestones ++ [.panic payload]) records := by
  cases life with
  | working => exact .panicked payload

theorem Life.cancel (life : Life worker old milestones records) (alive : old.hasEnded = false) :
    Life worker (.ended .cancelled) (milestones ++ [.cancellation]) records := by
  cases life with
  | fresh => exact .cancelledFresh
  | working => exact .cancelled
  | stopped | panicked | cancelled | cancelledFresh => cases alive

end

theorem Life.head? {worker : Nat} {stage : Stage} {milestones : List Milestone}
    {records : List Record} (life : Life worker stage milestones records) (begun : stage ≠ .fresh)
    (uncancelled : .cancellation ∉ milestones) : milestones.head? = some .firstTurn := by
  cases life with
  | fresh => exact absurd rfl begun
  | working | stopped | panicked | cancelled => rfl
  | cancelledFresh => exact absurd (List.mem_singleton.2 rfl) uncancelled

theorem Life.lifecycle {worker : Nat} {stage : Stage} {milestones : List Milestone}
    {records : List Record} (life : Life worker stage milestones records)
    (ended : stage.hasEnded = true) :
    Lifecycle worker milestones
      (records ++ (stage.mishap?.map (Record.workerTerminated worker)).toList) := by
  cases life with
  | fresh => cases ended
  | working begun alive =>
    rw [alive] at ended
    cases ended
  | stopped => exact .stopped
  | panicked payload => exact .panicked payload
  | cancelled => exact .cancelled
  | cancelledFresh => exact .cancelledFresh

def Stage.milestone? (observer : Observer) : Action → Stage → Option Milestone
  | .advance _, fresh => some .firstTurn
  | .advance _, recorded attempt result =>
    (observer.panic? (.ofResult attempt result)).map .panic
  | .cancel _, stage => if stage.hasEnded then none else some .cancellation
  | _, _ => none

namespace Crew

variable {request : Request} {observer : Observer} {supply : Supply} {plan : Plan}
  {action : Action} {origin crew crew' : Crew} {worker : Nat} {sofar : List Milestone}

def milestone? (observer : Observer) (worker : Nat) (crew : Crew) (action : Action) :
    Option Milestone :=
  if action.worker = worker then crew.stages[worker]?.bind (Stage.milestone? observer action)
  else none

def milestones (observer : Observer) (worker : Nat) (crew : Crew) : List Action → List Milestone
  | [] => []
  | action :: rest =>
    (milestone? observer worker crew action).toList ++
      milestones observer worker (crew.step observer action) rest

theorem milestone?_of_vain (vain : crew.step observer action = crew) :
    milestone? observer worker crew action = none := by
  unfold milestone?
  split
  · next mine =>
    subst mine
    rw [Option.bind_eq_none_iff]
    intro stage here
    have bound : action.worker < crew.stages.size := (Array.getElem?_eq_some_iff.1 here).1
    have stays := congrArg (fun crew => crew.stages[action.worker]?) vain
    cases action with
    | finish => rfl
    | advance worker =>
      rw [Action.worker_advance] at here bound stays
      rw [step_advance observer here, here] at stays
      cases stage with
      | fresh => simp [advance, bound] at stays
      | recorded attempt result =>
        cases panics : observer.panic? (.ofResult attempt result) with
        | none => simp [Stage.milestone?, panics]
        | some payload => simp [advance, bound, panics] at stays
      | idle | assigned | waiting | settled | ended => rfl
    | cancel worker =>
      rw [Action.worker_cancel] at here stays
      rw [here] at stays
      have ended := ended_step_cancel observer crew worker stage stays
      simp [Stage.milestone?, ended]
  · rfl

theorem about_of_ne (full : observer.Full) (change : Change observer supply action crew crew')
    (others : worker ≠ action.worker) : crew'.log.about worker = crew.log.about worker := by
  obtain ⟨-, shift⟩ := change
  cases shift with
  | start | stop =>
    rw [Action.worker_advance] at others
    rw [log_setStage, Log.about, Observer.records_trace full, List.filter_append]
    simp [Ne.symm others]
  | tell | die => exact Observer.about_emit full crew.log _ worker
  | take | begin | finish | record | abandon | leave => simp [Log.about]

def Lives (crew : Crew) (worker : Nat) (milestones : List Milestone) : Prop :=
  ∃ stage, crew.stages[worker]? = some stage ∧
    Life worker stage milestones (crew.log.about worker)

/-- A step of a worker's own continues its life. -/
theorem life_shift {shared : Crew} {old new : Stage} (full : observer.Full)
    (shift : Shift observer supply crew action old new shared)
    (life : Life action.worker old sofar (crew.log.about action.worker)) :
    Life action.worker new (sofar ++ (old.milestone? observer action).toList)
      (shared.log.about action.worker) := by
  have alive := shift.alive
  -- A start brings a milestone and a record, a stop a record only, the other ends a milestone only.
  cases shift with
  | @start worker =>
    show Life worker .idle _ (Log.about (observer.trace crew.log (.workerStarted worker)) worker)
    rw [Observer.about_trace full crew.log rfl]
    exact life.start
  | @stop worker =>
    show Life worker _ (sofar ++ [])
      (Log.about (observer.trace crew.log (.workerStopped worker)) worker)
    rw [Observer.about_trace full crew.log rfl, List.append_nil]
    exact life.stop
  | take | begin | finish | record =>
    simp only [Stage.milestone?, Option.toList_none, List.append_nil, Log.about, log_record,
      Log.records, Log.view_add, Happening.traced?] at life ⊢
    exact life.goOn (by simp) alive (by simp) rfl
  | @tell worker attempt result returned =>
    show Life worker .idle _ (Log.about (observer.emit crew.log _) worker)
    rw [Stage.milestone?, returned, Observer.about_emit full, Option.map_none, Option.toList_none,
      List.append_nil]
    exact life.goOn (by simp) alive (by simp) rfl
  | @die worker attempt result payload panicked =>
    show Life worker _ _ (Log.about (observer.emit crew.log _) worker)
    rw [Stage.milestone?, panicked, Observer.about_emit full]
    exact life.die payload
  | abandon | leave =>
    simp only [Stage.milestone?, alive, Bool.false_eq_true, if_false, Log.about, Log.records,
      Log.view_add, Happening.traced?, Option.toList_none, List.append_nil] at life ⊢
    exact life.cancel alive

theorem lives_step (full : observer.Full) (action : Action) (lives : crew.Lives worker sofar) :
    (crew.step observer action).Lives worker
      (sofar ++ (milestone? observer worker crew action).toList) := by
  rcases step_eq_or_change observer (allows_anything crew action) with vain | change
  · rw [milestone?_of_vain vain, vain, Option.toList_none, List.append_nil]
    exact lives
  · obtain ⟨stage, here, life⟩ := lives
    by_cases mine : action.worker = worker
    · subst mine
      rw [milestone?, if_pos rfl, here]
      generalize crew.step observer action = crew' at change
      obtain @⟨old, new, shared, before, shift⟩ := change
      cases before.symm.trans here
      refine ⟨new, shift.arrives before, ?_⟩
      rw [log_setStage]
      exact life_shift full shift life
    · refine ⟨stage, ?_, ?_⟩
      · rw [change.stages_of_ne (Ne.symm mine)]
        exact here
      · rw [milestone?, if_neg mine, Option.toList_none, List.append_nil,
          about_of_ne full change (Ne.symm mine)]
        exact life

theorem lives_run (full : observer.Full) (actions : List Action)
    (lives : crew.Lives worker sofar) :
    (crew.run observer actions).Lives worker
      (sofar ++ crew.milestones observer worker actions) := by
  induction actions generalizing crew sofar with
  | nil => simpa [milestones, run] using lives
  | cons action rest ih =>
    have first := ih (lives_step full action lives)
    rw [List.append_assoc] at first
    exact first

theorem lives_crew (full : observer.Full)
    (bound : worker < request.effectiveWorkers.toNat) :
    (request.crew observer).Lives worker [] := by
  refine ⟨.fresh, ?_, ?_⟩
  · simp [Request.crew, ofCounts, bound]
  · have none : (request.crew observer).log.about worker = [] := by
      rw [Request.crew, ofCounts, Observer.about_emit full]
      rfl
    rw [none]
    exact .fresh

theorem records_reached (full : observer.Full)
    (h : Reached observer supply (request.crew observer) crew) :
    ∀ record ∈ crew.log.records, record.OfWork observer request.started := by
  refine reached_invariant (fun crew =>
    ∀ record ∈ crew.log.records, record.OfWork observer request.started) (fun change ih => ?_) h ?_
  · obtain ⟨-, shift⟩ := change
    cases shift with
    | @start worker => exact Observer.all_trace full ih (.started worker)
    | @stop worker => exact Observer.all_trace full ih (.stopped worker)
    | @tell worker attempt result | @die worker attempt result =>
      exact Observer.all_emit full ih (.told attempt result)
    | take | begin | finish | record | abandon | leave => simpa using ih
  · show ∀ record ∈ (observer.emit {} request.started).records, _
    exact Observer.all_emit full (fun _ member => by cases member) .announced

def warning (mishap : Nat × Mishap) : Record := .workerTerminated mishap.1 mishap.2

theorem records_joined (full : observer.Full) (crew : Crew) :
    (crew.joined observer).log.records = crew.log.records ++ crew.mishaps.map warning := by
  have reports : (crew.reportMishaps observer).log.records =
      crew.log.records ++ crew.mishaps.map warning := by
    unfold reportMishaps
    generalize crew.mishaps = mishaps
    generalize crew.log = log
    induction mishaps generalizing log with
    | nil => simp
    | cons mishap rest ih =>
      rw [List.foldl_cons, ih, Observer.records_trace full, List.append_assoc]
      rfl
  rw [joined, recordNeverRun_eq, Log.records, view_foldl_giveUp]
  have none : (crew.reportMishaps observer).queue.attempts.filterMap
      (fun attempt => Happening.traced? (.neverRun attempt)) = [] := by
    simp
  rw [none, List.append_nil]
  exact reports

theorem mem_mishaps {mishap : Mishap} :
    (worker, mishap) ∈ crew.mishaps ↔
      ∃ stage, crew.stages[worker]? = some stage ∧ stage.mishap? = some mishap := by
  unfold mishaps
  rw [List.mem_filterMap]
  constructor
  · rintro ⟨⟨stage, place⟩, member, found⟩
    obtain ⟨_, known, same⟩ := Option.map_eq_some_iff.1 found
    cases same
    rw [List.mk_mem_zipIdx_iff_getElem?, Array.getElem?_toList] at member
    exact ⟨stage, member, known⟩
  · rintro ⟨stage, here, known⟩
    refine ⟨(stage, worker), ?_, ?_⟩
    · rw [List.mk_mem_zipIdx_iff_getElem?, Array.getElem?_toList]
      exact here
    · dsimp only
      rw [known]
      rfl

theorem mishaps_ascending (crew : Crew) : (crew.mishaps.map (·.1)).Pairwise (· < ·) := by
  have places : (crew.stages.toList.zipIdx.map Prod.snd).Pairwise (· < ·) := by
    rw [List.zipIdx_map_snd]
    exact List.pairwise_lt_range'
  rw [List.pairwise_map] at places ⊢
  unfold mishaps
  rw [List.pairwise_filterMap]
  refine places.imp fun {first second} less mishap found mishap' found' => ?_
  obtain ⟨_, -, rfl⟩ := Option.map_eq_some_iff.1 found
  obtain ⟨_, -, rfl⟩ := Option.map_eq_some_iff.1 found'
  exact less

theorem warnings_about {stage : Stage} (here : crew.stages[worker]? = some stage) :
    (crew.mishaps.map warning).filter (fun record => record.worker? = some worker) =
      (stage.mishap?.map (Record.workerTerminated worker)).toList := by
  have own : (crew.mishaps.map warning).filter (fun record => record.worker? = some worker) =
      (crew.mishaps.filter fun mishap => mishap.1 = worker).map warning := by
    rw [List.filter_map]
    congr 1
    apply List.filter_congr
    intro mishap _
    simp [warning]
  have mine (mishap : Nat × Mishap) :
      mishap ∈ crew.mishaps.filter (fun mishap => mishap.1 = worker) ↔
        mishap.1 = worker ∧ stage.mishap? = some mishap.2 := by
    rw [List.mem_filter, decide_eq_true_iff, and_comm]
    refine and_congr_right fun same => ?_
    obtain ⟨other, mishap⟩ := mishap
    cases same
    rw [mem_mishaps, here]
    simp
  rw [own]
  cases known : stage.mishap? with
  | none =>
    have nothing : crew.mishaps.filter (fun mishap => mishap.1 = worker) = [] := by
      rw [List.eq_nil_iff_forall_not_mem]
      intro mishap member
      have impossible := ((mine mishap).1 member).2
      rw [known] at impossible
      cases impossible
    rw [nothing]
    rfl
  | some mishap =>
    have workers : (crew.mishaps.map (·.1)).Nodup := crew.mishaps_ascending.imp Nat.ne_of_lt
    have distinct : crew.mishaps.Nodup := workers.of_map
    have only : (crew.mishaps.filter fun mishap => mishap.1 = worker).Perm [(worker, mishap)] := by
      rw [List.perm_ext_iff_of_nodup (distinct.filter _) (List.nodup_singleton _)]
      intro other
      rw [mine, known, List.mem_singleton, Option.some.injEq, Prod.ext_iff, eq_comm (a := mishap)]
    rw [List.perm_singleton.1 only]
    rfl

theorem records_settle (full : observer.Full) (request : Request) (crew : Crew) (pool : Pool) :
    ∃ closing, (crew.settle request observer pool).1.log.records =
        (crew.joined observer).log.records ++ closing ∧
      ∀ record ∈ closing, record.OfClosing observer := by
  have lasting : Books.Lasting observer
      (fun notice => (observer.event notice).record.OfClosing observer) fun log =>
        ∃ closing, log.records = (crew.joined observer).log.records ++ closing ∧
          ∀ record ∈ closing, record.OfClosing observer := by
    refine ⟨fun {log} call h => ?_, fun {log} connections h => ?_, fun {log notice} closes h => ?_⟩
    · simpa using h
    · rw [Log.records, Log.view_drop_of_none _ _ fun _ => rfl]
      exact h
    · obtain ⟨closing, records, all⟩ := h
      refine ⟨closing ++ [(observer.event notice).record], ?_, ?_⟩
      · rw [Observer.records_emit full, records, List.append_assoc]
      · rw [List.forall_mem_append, List.forall_mem_singleton]
        exact ⟨all, closes⟩
  apply lasts_settle request observer crew pool lasting .closed .failed .succeeded
  exact ⟨[], (List.append_nil _).symm, fun _ member => by cases member⟩

end Crew

/-- What is traced of a warm-up whose workers have all ended. Each worker has its own records, and
the warnings about workers stand between what the crew has told and what the coordinator tells. -/
structure Chronicle (observer : Observer) (first : Notice) (workers : Nat)
    (milestones : Nat → List Milestone) (records : List Record) : Prop where
  lives : ∀ worker < workers, Lifecycle worker (milestones worker)
    (records.filter fun record => record.worker? = some worker)
  order : ∃ (working : List Record) (mishaps : List (Nat × Mishap)) (closing : List Record),
    records = working ++ mishaps.map Crew.warning ++ closing ∧
      (∀ record ∈ working, record.OfWork observer first) ∧
      (∀ record ∈ closing, record.OfClosing observer) ∧
      (mishaps.map (·.1)).Pairwise (· < ·) ∧
      records.filter (·.level = .warn) = mishaps.map Crew.warning

namespace Crew

variable {request : Request} {observer : Observer} {crew : Crew}

theorem chronicle_settle (full : observer.Full) (actions : List Action) (pool : Pool)
    (allOver : ((request.crew observer).run observer actions).isOver = true) :
    let origin := request.crew observer
    Chronicle observer request.started request.effectiveWorkers.toNat
      (fun worker => origin.milestones observer worker actions)
      ((origin.run observer actions).settle request observer pool).1.log.records := by
  intro origin
  have reached : Reached observer anything (request.crew observer) _ := reached_run _ actions
  have working := records_reached full reached
  obtain ⟨closing, records, closes⟩ :=
    records_settle full request ((request.crew observer).run observer actions) pool
  rw [records_joined full] at records
  rw [records]
  refine ⟨fun worker bound => ?_, _, _, closing, rfl, working, closes, mishaps_ascending _, ?_⟩
  · obtain ⟨stage, here, life⟩ := lives_run full actions (lives_crew full bound)
    have none : closing.filter (fun record => record.worker? = some worker) = [] := by
      rw [List.filter_eq_nil_iff]
      intro record member
      simp [(closes record member).worker?_eq]
    rw [List.filter_append, List.filter_append, none, List.append_nil, warnings_about here]
    exact life.lifecycle (isOver_iff.1 allOver worker stage here)
  · have before : (((request.crew observer).run observer actions).log.records.filter
        (·.level = .warn)) = [] := by
      rw [List.filter_eq_nil_iff]
      intro record member
      simpa using (working record member).level_ne
    have after : closing.filter (·.level = .warn) = [] := by
      rw [List.filter_eq_nil_iff]
      intro record member
      simpa using (closes record member).level_ne
    have warnings (mishaps : List (Nat × Mishap)) :
        (mishaps.map warning).filter (·.level = .warn) = mishaps.map warning := by
      rw [List.filter_eq_self]
      intro record member
      obtain ⟨mishap, -, rfl⟩ := List.mem_map.1 member
      rfl
    rw [List.filter_append, List.filter_append, before, after, warnings, List.nil_append,
      List.append_nil]

theorem milestones_append (observer : Observer) (worker : Nat) (crew : Crew)
    (actions later : List Action) :
    crew.milestones observer worker (actions ++ later) =
      crew.milestones observer worker actions ++
        (crew.run observer actions).milestones observer worker later := by
  induction actions generalizing crew with
  | nil => rfl
  | cons action rest ih =>
    rw [List.cons_append, milestones, milestones, ih, List.append_assoc]
    rfl

theorem run_concat (observer : Observer) (crew : Crew) (actions : List Action) (action : Action) :
    crew.run observer (actions ++ [action]) = (crew.run observer actions).step observer action :=
  List.foldl_append

theorem uncancelled_of_next {mover : Nat}
    (next : crew.stages[mover]?.bind (Stage.next? plan mover) = some action) (worker : Nat) :
    milestone? observer worker crew action ≠ some .cancellation := by
  unfold milestone?
  split
  · intro impossible
    obtain ⟨stage, -, found⟩ := Option.bind_eq_some_iff.1 impossible
    rcases own_of_next next with rfl | ⟨outcome, rfl⟩
    · cases stage with
      | recorded =>
        obtain ⟨payload, -, impossible⟩ := Option.map_eq_some_iff.1 found
        cases impossible
      | fresh | idle | assigned | waiting | settled | ended => cases found
    · cases found
  · exact fun impossible => by cases impossible

/-- Steps have led from one crew to the other, and nobody was cancelled in them. -/
def Undisturbed (observer : Observer) (origin crew : Crew) : Prop :=
  ∃ actions, crew = origin.run observer actions ∧
    ∀ worker, .cancellation ∉ origin.milestones observer worker actions

theorem Undisturbed.refl (observer : Observer) (origin : Crew) :
    Undisturbed observer origin origin :=
  ⟨[], rfl, fun _ => List.not_mem_nil⟩

theorem Undisturbed.turn (h : Undisturbed observer origin crew) (mover : Nat) :
    Undisturbed observer origin (crew.turn observer plan mover) := by
  refine turn_invariant (Undisturbed observer origin) (fun crew action next sofar => ?_) h
  obtain ⟨actions, rfl, uncancelled⟩ := sofar
  refine ⟨actions ++ [action], (run_concat observer origin actions action).symm, fun worker => ?_⟩
  rw [milestones_append, List.mem_append, milestones, milestones, List.append_nil,
    Option.mem_toList]
  rintro (before | now)
  · exact uncancelled worker before
  · exact uncancelled_of_next next worker now

/-- In whatever a single thread does, every worker has its first turn before anything else. -/
theorem labor_eq_run (full : observer.Full) (request : Request) (plan : Plan) (steps : List Step) :
    let origin := request.crew observer
    ∃ actions, (origin.labor observer plan steps).crew = origin.run observer actions ∧
      ∀ worker < request.effectiveWorkers.toNat,
        (origin.milestones observer worker actions).head? = some .firstTurn := by
  intro origin
  have size : origin.stages.size = request.effectiveWorkers.toNat := by
    simp [origin, Request.crew, ofCounts]
  obtain ⟨earlier, first, uncancelled⟩ : Undisturbed observer origin
      (origin.turns observer plan (List.range origin.stages.size)) :=
    turns_invariant _ (fun worker sofar => sofar.turn worker) _ (.refl observer origin)
  obtain ⟨later, all⟩ : ∃ later, (origin.labor observer plan steps).crew =
      (origin.run observer earlier).run observer later := by
    refine heeds_of_step
      (fun crew => ∃ later, crew = (origin.run observer earlier).run observer later)
      (fun action sofar => ?_) steps ?_
    · obtain ⟨later, rfl⟩ := sofar
      exact ⟨later ++ [action], (run_concat observer _ later action).symm⟩
    · exact ⟨[], first⟩
  refine ⟨earlier ++ later, all.trans List.foldl_append.symm, fun worker bound => ?_⟩
  -- After the first turns everyone is at rest, and whoever is fresh is not.
  obtain ⟨stage, here, life⟩ := lives_run full earlier (lives_crew full bound)
  have begun : stage ≠ .fresh := by
    rintro rfl
    have rests : Rests plan (origin.turns observer plan (List.range origin.stages.size)) worker :=
      rests_turns (.inl (by rwa [List.mem_range, size]))
    rw [first, Rests, here] at rests
    cases rests
  have head : (origin.milestones observer worker earlier).head? = some .firstTurn :=
    life.head? begun (uncancelled worker)
  rw [milestones_append, List.head?_append, head]
  rfl

end Crew

namespace Run

open Crew

/-- A run that is traced in full tells the life of every worker. However the workers' steps follow
one another, a worker that has had its first turn is said once to have started. It is said once to
have stopped, or there is one warning with its number, which is so if the handler has panicked under
it or if it was cancelled. The warnings come in the order of the workers, after all that was told
while the crew worked and before all that the coordinator tells. The same is true of a run on a
single thread, where every worker has had its first turn. -/
theorem worker_lifecycles (request : Request) (plan : Plan) (pool : Pool) (steps : List Step) :
    let observer := Observer.ofRequest request (some .trace)
    let workers := (min request.target request.workers).toNat
    let origin := request.crew observer
    let run := (play request (some .trace) plan pool steps).1
    let accounts := (play request (some .trace) plan pool steps).2
    (∀ actions : List Action, (origin.run observer actions).isOver = true →
        Chronicle observer request.started workers
          (fun worker => origin.milestones observer worker actions)
          ((origin.run observer actions).settle request observer pool).1.log.records) ∧
      (request.Begins observer → run.conclusion ≠ none → run.conclusion ≠ some .cancelled →
        ∃ actions, (origin.run observer actions).isOver = true ∧
          run.crew = ((origin.run observer actions).settle request observer pool).1 ∧
          (∀ worker < workers,
            (origin.milestones observer worker actions).head? = some .firstTurn) ∧
          Chronicle observer request.started workers
            (fun worker => origin.milestones observer worker actions)
            (accounts.flatMap (·.traced))) := by
  intro observer workers origin run accounts
  have full : observer.Full := Observer.collects_trace request
  have chronicle (actions : List Action) (allOver : (origin.run observer actions).isOver = true) :=
    chronicle_settle full actions pool allOver
  refine ⟨chronicle, fun begins concluded uncancelled => ?_⟩
  have hasResult := hasResultOf_play begins plan pool steps
  obtain ⟨actions, same, first⟩ := labor_eq_run full request plan steps
  have allOver := hasResult.isOver (Option.isSome_iff_ne_none.2 concluded)
  have done : ((request.crew observer).labor observer plan steps).givenUp = false := by
    apply Bool.of_not_eq_true
    intro givenUp
    exact uncancelled (hasResult.dropped allOver givenUp).2
  have settled := (hasResult.settled allOver done).1
  rw [same] at allOver settled
  refine ⟨actions, allOver, settled, first, ?_⟩
  have traced : accounts.flatMap (·.traced) = run.crew.log.records :=
    traced_play request (some .trace) plan pool steps
  rw [traced, settled]
  exact chronicle actions allOver

end Run

end Preconnect
