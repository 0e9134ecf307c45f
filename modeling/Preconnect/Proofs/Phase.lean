import Preconnect.Proofs.Handout
import Preconnect.Proofs.Settling
import Preconnect.Proofs.Telling
import Preconnect.Run.Entry

/-!
The phases of a run. After any decisions from outside, a warm-up has been turned away, waits for
more decisions with all its workers at rest, or has come to its one conclusion.
-/
namespace Preconnect

def Step.Within (supply : Crew.Supply) : Step → Prop
  | finish items => ∀ item ∈ items, supply item.1 item.2
  | finishAll outcome => ∀ attempt, supply attempt (outcome attempt)
  | wait | cancel | shutdown | receive _ | closeReceiver => True

theorem Plan.within_anything (plan : Plan) : plan.Within Crew.anything := fun _ _ _ => trivial

theorem Step.within_anything (step : Step) : step.Within Crew.anything := by
  cases step with
  | finish => exact fun _ _ => trivial
  | finishAll => exact fun _ => trivial
  | wait | cancel | shutdown | receive | closeReceiver => trivial

structure Request.Begins (request : Request) (observer : Observer) : Prop where
  valid : request.invalid? = none
  returned : observer.panic? request.started = none

namespace Crew

variable {request : Request} {observer : Observer} {plan : Plan} {supply : Supply} {crew : Crew}

theorem workerOf?_of_isOver (allOver : crew.isOver = true) (attempt : Nat) :
    crew.workerOf? attempt = none := by
  cases found : crew.workerOf? attempt with
  | none => rfl
  | some worker =>
    obtain ⟨call, waits⟩ := waiting_of_workerOf? found
    cases isOver_iff.1 allOver worker _ waits

theorem release_of_isOver (observer : Observer) (allOver : crew.isOver = true)
    (items : List (Nat × Outcome)) :
    (crew.release observer items).1 = crew ∧ (crew.release observer items).2.1 = [] := by
  induction items with
  | nil => exact ⟨rfl, rfl⟩
  | cons item rest ih =>
    simp only [release, workerOf?_of_isOver allOver]
    exact ih

theorem step_of_isOver (observer : Observer) (allOver : crew.isOver = true) (action : Action) :
    crew.step observer action = crew := by
  rcases step_eq_or_change observer (allows_anything crew action) with same | change
  · exact same
  · generalize crew.step observer action = crew' at change
    obtain ⟨here, shift⟩ := change
    cases shift.alive.symm.trans (isOver_iff.1 allOver _ _ here)

theorem cancelAll_of_isOver (observer : Observer) (allOver : crew.isOver = true) :
    crew.cancelAll observer = crew := by
  refine cancelAll_invariant (· = crew) (fun worker same => ?_) rfl
  rw [same]
  exact step_of_isOver observer allOver (.cancel worker)

/-- A crew that has nothing to do before there is a decision from outside. -/
structure Paused (request : Request) (observer : Observer) (plan : Plan) (supply : Supply)
    (crew : Crew) : Prop where
  reached : Reached observer supply (request.crew observer) crew
  told : Told observer request.started crew
  prospects : crew.prospects.Perm (List.range request.target.toNat)
  rests : ∀ worker, Rests plan crew worker

theorem paused_begin (request : Request) (observer : Observer) (within : plan.Within supply) :
    Paused request observer plan supply ((request.crew observer).turns observer plan
      (List.range request.effectiveWorkers.toNat)) := by
  refine ⟨reached_turns within .refl _, told_turns (told_crew request observer) plan _,
    (prospects_turns observer plan _ _).trans (.of_eq (prospects_crew request observer)), ?_⟩
  intro worker
  apply rests_turns
  by_cases member : worker ∈ List.range request.effectiveWorkers.toNat
  · exact .inl member
  · refine .inr ?_
    rw [List.mem_range, Nat.not_lt] at member
    have : (request.crew observer).stages[worker]? = none := by
      simpa [Request.crew, ofCounts] using member
    rw [Rests, this]
    rfl

theorem paused_finish (within : plan.Within supply) (items : List (Nat × Outcome))
    (supplied : ∀ item ∈ items, supply item.1 item.2)
    (h : Paused request observer plan supply crew) :
    Paused request observer plan supply ((crew.release observer items).1.turns observer plan
      (crew.release observer items).2.1) := by
  refine ⟨reached_turns within (reached_release items supplied h.reached) _,
    told_turns (told_release h.told items) plan _,
    ((prospects_turns observer plan _ _).trans (prospects_release observer crew items)).trans
      h.prospects, ?_⟩
  intro worker
  apply rests_turns
  -- A worker that was not released rests where it did before.
  rcases stages_release observer crew items worker with same | ⟨ready, -⟩
  · refine .inr ?_
    rw [Rests, same]
    exact h.rests worker
  · exact .inl ready

theorem paused_cancelAll (h : Paused request observer plan supply crew) :
    Paused request observer plan supply (crew.cancelAll observer) := by
  refine ⟨reached_cancelAll h.reached, told_cancelAll h.told,
    (prospects_cancelAll observer (begun_of_rests h.rests)).trans h.prospects, ?_⟩
  intro worker
  cases here : (crew.cancelAll observer).stages[worker]? with
  | none =>
    rw [Rests, here]
    rfl
  | some stage =>
    have ended := isOver_iff.1 (isOver_cancelAll observer crew) worker stage here
    rw [Rests, here]
    cases stage with
    | ended => rfl
    | fresh | idle | assigned | waiting | settled | recorded => cases ended

theorem inFlight_of_rests (rests : ∀ worker, Rests plan crew worker) {attempt : Nat}
    (begun : attempt ∈ gather crew.stages Stage.begun?) : attempt ∈ crew.inFlight := by
  obtain ⟨stage, member, held⟩ := List.mem_filterMap.1 begun
  obtain ⟨worker, here⟩ := List.mem_iff_getElem?.1 member
  have rest := rests worker
  rw [Array.getElem?_toList] at here
  rw [Rests, here] at rest
  rw [inFlight, List.mem_mergeSort]
  refine List.mem_filterMap.2 ⟨stage, member, ?_⟩
  cases stage with
  | waiting attempt call => exact held
  | settled => cases rest
  | fresh | idle | assigned | recorded | ended => cases held

theorem inFlight_of_ascending {attempts : List Nat}
    (flights : crew.stages.toList.filterMap Stage.inFlight? = attempts)
    (ascending : attempts.Pairwise (· ≤ ·)) : crew.inFlight = attempts := by
  rw [inFlight, flights]
  exact List.mergeSort_of_pairwise (by simpa using ascending)

def dropped (crew : Crew) : Crew :=
  { crew with
    arrivals := ⟨#[]⟩
    log := crew.log.drop (crew.arrivals.held.toList.map (·.connection)) }

@[simp] theorem stages_settle (request : Request) (observer : Observer) (crew : Crew)
    (pool : Pool) : (crew.settle request observer pool).1.stages = crew.stages := by
  rw [settle_eq]
  exact stages_joined observer crew

end Crew

namespace Run

open Crew

variable {request : Request} {observer : Observer} {plan : Plan} {supply : Supply} {pool : Pool}
  {run : Run} {crew : Crew}

/-- How far a warm-up has come, by its crew, its pool and its conclusion. -/
inductive Phase (request : Request) (observer : Observer) (plan : Plan) (supply : Supply)
    (pool : Pool) : Crew → Pool → Option Conclusion → Prop
  | rejected {error : Error} (invalid : request.invalid? = some error) :
    Phase request observer plan supply pool (.ofCounts 0 0 {}) pool (some (.failed error))
  | refused {payload : Payload} (valid : request.invalid? = none)
      (panicked : observer.panic? request.started = some payload) :
    Phase request observer plan supply pool (.ofCounts 0 0 (observer.emit {} request.started)) pool
      (some (.panicked payload))
  | running {crew : Crew} (begins : request.Begins observer)
      (paused : Paused request observer plan supply crew) (alive : crew.isOver = false) :
    Phase request observer plan supply pool crew pool none
  | dropped {crew : Crew} (begins : request.Begins observer)
      (paused : Paused request observer plan supply crew) (allOver : crew.isOver = true) :
    Phase request observer plan supply pool crew.dropped pool (some .cancelled)
  | settled {crew : Crew} (begins : request.Begins observer)
      (paused : Paused request observer plan supply crew) (allOver : crew.isOver = true) :
    Phase request observer plan supply pool (crew.settle request observer pool).1
      (crew.settle request observer pool).2.1 (some (crew.settle request observer pool).2.2)

/-- The run is one of the request, with the crew, the pool and the conclusion of some phase. -/
structure InPhase (request : Request) (observer : Observer) (plan : Plan) (supply : Supply)
    (pool : Pool) (run : Run) : Prop where
  ofRequest : run.request = request
  watched : run.observer = observer
  planned : run.plan = plan
  phase : Phase request observer plan supply pool run.crew run.pool run.conclusion

theorem Phase.isOver {after : Pool} {conclusion : Conclusion}
    (phase : Phase request observer plan supply pool crew after (some conclusion)) :
    crew.isOver = true := by
  cases phase with
  | rejected | refused => simp [Crew.isOver, ofCounts]
  | dropped begins paused allOver => exact allOver
  | settled begins paused allOver =>
    rw [Crew.isOver, stages_settle]
    exact allOver

theorem Phase.of_invalid {after : Pool} {conclusion : Option Conclusion}
    (phase : Phase request observer plan supply pool crew after conclusion)
    {error : Error} (invalid : request.invalid? = some error) :
    (crew, after, conclusion) = (.ofCounts 0 0 {}, pool, some (.failed error)) := by
  cases phase with
  | rejected refused =>
    cases refused.symm.trans invalid
    rfl
  | refused valid => cases valid.symm.trans invalid
  | running begins | dropped begins | settled begins => cases begins.valid.symm.trans invalid

theorem Phase.of_panic {after : Pool} {conclusion : Option Conclusion}
    (phase : Phase request observer plan supply pool crew after conclusion)
    (valid : request.invalid? = none) {payload : Payload}
    (panicked : observer.panic? request.started = some payload) :
    (crew, after, conclusion) =
      (.ofCounts 0 0 (observer.emit {} request.started), pool, some (.panicked payload)) := by
  cases phase with
  | rejected invalid => cases valid.symm.trans invalid
  | refused _ panicked' =>
    cases panicked.symm.trans panicked'
    rfl
  | running begins | dropped begins | settled begins =>
    cases begins.returned.symm.trans panicked

theorem Phase.paused {after : Pool} {conclusion : Option Conclusion}
    (phase : Phase request observer plan supply pool crew after conclusion)
    (ongoing : conclusion = none) :
    after = pool ∧ request.Begins observer ∧ Paused request observer plan supply crew := by
  cases phase with
  | running begins paused => exact ⟨rfl, begins, paused⟩
  | rejected | refused | dropped | settled => cases ongoing

/-- Whatever the phase, what the log tells of the workers was written by steps of theirs, and what
they have begun by then is still in flight. -/
theorem Phase.worked {after : Pool} {conclusion : Option Conclusion}
    (phase : Phase request observer plan supply pool crew after conclusion) :
    ∃ worked, Reached observer supply (request.crew observer) worked ∧
      (∀ {α : Type} {find : Happening → Option α}, OfWork find →
        (∀ attempt, find (.neverRun attempt) = none) →
        crew.log.view find = worked.log.view find) ∧
      ∀ attempt ∈ gather worked.stages Stage.begun?, attempt ∈ crew.inFlight := by
  cases phase with
  | rejected | refused =>
    refine ⟨request.crew observer, .refl, fun h _ => ?_, ?_⟩
    · rw [view_crew h]
      simp [ofCounts, h]
    · rw [gather_crew rfl]
      exact fun _ begun => by cases begun
  | running begins paused =>
    exact ⟨crew, paused.reached, fun _ _ => rfl, fun _ => inFlight_of_rests paused.rests⟩
  | @dropped crew begins paused allOver =>
    refine ⟨crew, paused.reached, fun h _ => Log.view_drop h _ _, ?_⟩
    rw [gather_of_isOver allOver fun _ => rfl]
    exact fun _ begun => by cases begun
  | @settled crew begins paused allOver =>
    refine ⟨crew, paused.reached, view_settle_of_none, ?_⟩
    rw [gather_of_isOver allOver fun _ => rfl]
    exact fun _ begun => by cases begun

theorem step_finishAll {run : Run} {attempts : List Nat} (flying : run.crew.inFlight = attempts)
    (outcomes : Nat → Outcome) :
    run.step (.finishAll outcomes) =
      run.step (.finish (attempts.map fun attempt => (attempt, outcomes attempt))) := by
  subst flying
  rfl

theorem inPhase_settle (begins : request.Begins observer)
    (paused : Paused request observer plan supply crew) (outlet : Outlet) :
    InPhase request observer plan supply pool
      (settle ⟨request, observer, plan, crew, pool, outlet, none⟩) := by
  unfold settle
  cases allOver : crew.isOver with
  | true => exact ⟨rfl, rfl, rfl, .settled begins paused allOver⟩
  | false => exact ⟨rfl, rfl, rfl, .running begins paused allOver⟩

theorem inPhase_finish (within : plan.Within supply) (items : List (Nat × Outcome))
    (supplied : ∀ item ∈ items, supply item.1 item.2)
    (h : InPhase request observer plan supply pool run) :
    InPhase request observer plan supply pool (run.finish items).1 := by
  obtain ⟨request, observer, plan, crew, after, outlet, conclusion⟩ := run
  obtain ⟨rfl, rfl, rfl, phase⟩ := h
  cases conclusion with
  | some conclusion =>
    have allOver : crew.isOver = true := phase.isOver
    obtain ⟨same, none⟩ := release_of_isOver observer allOver items
    simp only [finish, same, none, proceed, turns, List.foldl_nil, settle, Option.isNone_some,
      Bool.false_and, Bool.false_eq_true, if_false]
    exact ⟨rfl, rfl, rfl, phase⟩
  | none =>
    obtain ⟨rfl, begins, paused⟩ := phase.paused rfl
    exact inPhase_settle begins (paused_finish within items supplied paused) outlet

theorem inPhase_cancel (h : InPhase request observer plan supply pool run) :
    InPhase request observer plan supply pool run.cancel := by
  obtain ⟨request, observer, plan, crew, after, outlet, conclusion⟩ := run
  obtain ⟨rfl, rfl, rfl, phase⟩ := h
  cases conclusion with
  | some conclusion => exact ⟨rfl, rfl, rfl, phase⟩
  | none =>
    obtain ⟨rfl, begins, paused⟩ := phase.paused rfl
    exact ⟨rfl, rfl, rfl,
      .dropped begins (paused_cancelAll paused) (isOver_cancelAll observer crew)⟩

theorem inPhase_shutdown (h : InPhase request observer plan supply pool run) :
    InPhase request observer plan supply pool run.shutdown := by
  obtain ⟨request, observer, plan, crew, after, outlet, conclusion⟩ := run
  obtain ⟨rfl, rfl, rfl, phase⟩ := h
  cases conclusion with
  | some conclusion =>
    have allOver : crew.isOver = true := phase.isOver
    simp only [shutdown, cancelAll_of_isOver observer allOver, settle, Option.isNone_some,
      Bool.false_and, Bool.false_eq_true, if_false]
    exact ⟨rfl, rfl, rfl, phase⟩
  | none =>
    obtain ⟨rfl, begins, paused⟩ := phase.paused rfl
    exact inPhase_settle begins (paused_cancelAll paused) _

theorem InPhase.outlet (h : InPhase request observer plan supply pool run) (outlet : Outlet) :
    InPhase request observer plan supply pool { run with outlet } :=
  ⟨h.ofRequest, h.watched, h.planned, h.phase⟩

theorem inPhase_move (within : plan.Within supply) {step : Step} (supplied : step.Within supply)
    (h : InPhase request observer plan supply pool run) :
    InPhase request observer plan supply pool (run.move step).1 := by
  cases step with
  | finish items => exact inPhase_finish within items supplied h
  | finishAll outcome =>
    refine inPhase_finish within _ (fun item member => ?_) h
    obtain ⟨attempt, -, rfl⟩ := List.mem_map.1 member
    exact supplied attempt
  | wait => exact h
  | cancel => exact inPhase_cancel h
  | shutdown => exact inPhase_shutdown h
  | receive | closeReceiver => exact h.outlet _

theorem inPhase_step (within : plan.Within supply) {step : Step} (supplied : step.Within supply)
    (h : InPhase request observer plan supply pool run) :
    InPhase request observer plan supply pool (run.step step).1 :=
  (inPhase_move within supplied h).outlet _

theorem inPhase_steps (within : plan.Within supply) (steps : List Step)
    (supplied : ∀ step ∈ steps, step.Within supply)
    (h : InPhase request observer plan supply pool run) :
    InPhase request observer plan supply pool (run.steps steps).1 := by
  induction steps generalizing run with
  | nil => exact h
  | cons step rest ih =>
    obtain ⟨first, others⟩ := List.forall_mem_cons.1 supplied
    exact ih others (inPhase_step within first h)

theorem announce_refused (run : Run) {payload : Payload}
    (panicked : run.observer.panic? run.request.started = some payload) :
    run.announce =
      ({ run with
        crew := { run.crew with log := run.observer.emit run.crew.log run.request.started }
        conclusion := some (.panicked payload) }, []) := by
  unfold Request.started at panicked ⊢
  simp only [announce, panicked]

theorem announce_returned (run : Run)
    (returned : run.observer.panic? run.request.started = none) :
    run.announce =
      ({ run with
        crew := .ofCounts run.request.target.toNat run.request.effectiveWorkers.toNat
          (run.observer.emit run.crew.log run.request.started) },
        List.range run.request.effectiveWorkers.toNat) := by
  unfold Request.started at returned ⊢
  simp only [announce, returned]

theorem begin_refused (run : Run) {payload : Payload}
    (panicked : run.observer.panic? run.request.started = some payload) :
    run.begin =
      { run with
        crew := { run.crew with log := run.observer.emit run.crew.log run.request.started }
        conclusion := some (.panicked payload) } := by
  rw [begin, announce_refused run panicked]
  rfl

theorem begin_proceeds (run : Run)
    (returned : run.observer.panic? run.request.started = none) :
    run.begin =
      proceed { run with
        crew := .ofCounts run.request.target.toNat run.request.effectiveWorkers.toNat
          (run.observer.emit run.crew.log run.request.started) }
        (List.range run.request.effectiveWorkers.toNat) := by
  rw [begin, announce_returned run returned]

def opened (request : Request) (level : Option Level) (plan : Plan) (pool : Pool) : Run :=
  match request.invalid? with
  | some error => { ofRequest request level plan pool with conclusion := some (.failed error) }
  | none => (ofRequest request level plan pool).begin

theorem start_eq (request : Request) (level : Option Level) (plan : Plan) (pool : Pool) :
    start request level plan pool =
      (((opened request level plan pool).deliverSince 0).2,
        { delivered := ((opened request level plan pool).deliverSince 0).1 }) := rfl

theorem inPhase_opened (request : Request) (level : Option Level) (pool : Pool)
    (within : plan.Within supply) :
    InPhase request (.ofRequest request level) plan supply pool
      (opened request level plan pool) := by
  unfold opened
  cases valid : request.invalid? with
  | some error => exact ⟨rfl, rfl, rfl, .rejected valid⟩
  | none =>
    cases panics : (Observer.ofRequest request level).panic? request.started with
    | some payload =>
      rw [begin_refused (ofRequest request level plan pool) panics]
      exact ⟨rfl, rfl, rfl, .refused valid panics⟩
    | none =>
      rw [begin_proceeds (ofRequest request level plan pool) panics]
      exact inPhase_settle ⟨valid, panics⟩ (paused_begin request _ within) _

/-- Every run is in one of the phases, whatever is decided in it. -/
theorem inPhase_play_within (request : Request) (level : Option Level) (pool : Pool)
    (within : plan.Within supply) (steps : List Step)
    (supplied : ∀ step ∈ steps, step.Within supply) :
    InPhase request (.ofRequest request level) plan supply pool
      (play request level plan pool steps).1 :=
  inPhase_steps within steps supplied ((inPhase_opened request level pool within).outlet _)

theorem inPhase_start (request : Request) (level : Option Level) (plan : Plan) (pool : Pool) :
    InPhase request (.ofRequest request level) plan anything pool
      (start request level plan pool).1 :=
  (inPhase_opened request level pool plan.within_anything).outlet _

theorem inPhase_play (request : Request) (level : Option Level) (plan : Plan) (pool : Pool)
    (steps : List Step) :
    InPhase request (.ofRequest request level) plan anything pool
      (play request level plan pool steps).1 :=
  inPhase_play_within request level pool plan.within_anything steps fun step _ =>
    step.within_anything

end Run

end Preconnect
