import Preconnect.Proofs.Matching

/-!
Observers are passive. Warm-ups that are asked for the same come to the same, step by step, whoever
watches them and whatever becomes of the events on their way, unless a handler panics when it is
called. Handlers of one pool are also told the same.
-/
namespace Preconnect

/-- Whether the step is one for the warm-up, and not only for the handler's channel. -/
def Step.drives : Step → Bool
  | finish _ | finishAll _ | wait | cancel | shutdown => true
  | receive _ | closeReceiver => false

/-- The requests ask for the same connections, for whatever observers. -/
structure Request.Agrees (request request' : Request) : Prop where
  target : request'.target = request.target
  workers : request'.workers = request.workers
  failFast : request'.failFast = request.failFast

namespace Request

variable {request request' : Request}

theorem Agrees.effectiveWorkers (agrees : request.Agrees request') :
    request'.effectiveWorkers = request.effectiveWorkers := by
  rw [Request.effectiveWorkers, agrees.target, agrees.workers, Request.effectiveWorkers]

theorem Agrees.started (agrees : request.Agrees request') :
    request'.started = request.started := by
  rw [Request.started, agrees.target, agrees.effectiveWorkers, agrees.failFast, Request.started]

theorem Agrees.invalid? (agrees : request.Agrees request') :
    request'.invalid? = request.invalid? := by
  rw [Request.invalid?, fault?, agrees.target, agrees.workers, ← fault?, ← Request.invalid?]

end Request

namespace Run

structure Matches (run run' : Run) : Prop where
  request : run.request.Agrees run'.request
  plan : run'.plan = run.plan
  pool : run'.pool = run.pool
  conclusion : run'.conclusion = run.conclusion
  crew : Crew.Matches run.observer run'.observer run.crew run'.crew

def Quiet (run : Run) : Prop := run.crew.log.Harmless run.observer.handler

variable {run run' : Run}

theorem Matches.outlets (h : Matches run run') (outlet outlet' : Outlet) :
    Matches { run with outlet } { run' with outlet := outlet' } :=
  ⟨h.request, h.plan, h.pool, h.conclusion, h.crew⟩

theorem Matches.crews (h : Matches run run') {crew crew' : Crew}
    (crews : Crew.Matches run.observer run'.observer crew crew') :
    Matches { run with crew } { run' with crew := crew' } :=
  ⟨h.request, h.plan, h.pool, h.conclusion, crews⟩

theorem observer_settle (run : Run) : run.settle.observer = run.observer := by
  unfold settle
  split <;> rfl

theorem Matches.settle (h : Matches run run') (quiet : run.settle.Quiet)
    (quiet' : run'.settle.Quiet) : Matches run.settle run'.settle := by
  have ended : run'.crew.isOver = run.crew.isOver := by
    rw [Crew.isOver, h.crew.stages, Crew.isOver]
  unfold Quiet Run.settle at quiet quiet'
  unfold Run.settle
  rw [h.conclusion, ended] at quiet' ⊢
  split at quiet
  · rename_i concludes
    rw [if_pos concludes] at quiet' ⊢
    rw [if_pos concludes]
    rw [h.pool] at quiet' ⊢
    obtain ⟨crew, same⟩ :=
      h.crew.settle run.pool h.request.target h.request.failFast quiet quiet'
    exact ⟨h.request, h.plan, congrArg (·.1) same, congrArg (some ·.2) same, crew⟩
  · rename_i ongoing
    rw [if_neg ongoing, if_neg ongoing]
    exact h

theorem Matches.proceed (h : Matches run run') (workers : List Nat)
    (quiet : (run.proceed workers).Quiet) (quiet' : (run'.proceed workers).Quiet) :
    Matches (run.proceed workers) (run'.proceed workers) := by
  unfold Run.proceed at quiet quiet' ⊢
  have turned := quiet
  have turned' := quiet'
  rw [Quiet, observer_settle] at turned turned'
  have first := turned.earlier (grows_settle_run _)
  have first' := turned'.earlier (grows_settle_run _)
  rw [h.plan] at first' quiet' ⊢
  exact Matches.settle ⟨h.request, rfl, h.pool, h.conclusion, h.crew.turns workers first first'⟩
    quiet quiet'

theorem finish_fst (run : Run) (items : List (Nat × Outcome)) :
    (run.finish items).1 =
      proceed { run with crew := (run.crew.release run.observer items).1 }
        (run.crew.release run.observer items).2.1 := rfl

theorem Matches.finish (h : Matches run run') (items : List (Nat × Outcome))
    (quiet : (run.finish items).1.Quiet) (quiet' : (run'.finish items).1.Quiet) :
    Matches (run.finish items).1 (run'.finish items).1 := by
  obtain ⟨released, same⟩ := h.crew.release items
  have ready := congrArg Prod.fst same
  rw [finish_fst] at quiet quiet'
  rw [ready] at quiet'
  rw [finish_fst, finish_fst, ready]
  exact (h.crews released).proceed _ quiet quiet'

theorem Matches.cancel (h : Matches run run') : Matches run.cancel run'.cancel := by
  unfold Run.cancel
  rw [h.conclusion]
  split
  · refine ⟨h.request, h.plan, h.pool, rfl, ?_⟩
    have cancelled := h.crew.cancelAll
    dsimp only
    generalize run.crew.cancelAll run.observer = crew at cancelled ⊢
    generalize run'.crew.cancelAll run'.observer = crew' at cancelled ⊢
    obtain ⟨logs⟩ := cancelled
    exact .mk (logs.drop _)
  · exact h

theorem Matches.shutdown (h : Matches run run') (quiet : run.shutdown.Quiet)
    (quiet' : run'.shutdown.Quiet) : Matches run.shutdown run'.shutdown :=
  ((h.crews h.crew.cancelAll).outlets _ _).settle quiet quiet'

theorem returned_of_quiet (quiet : run.begin.Quiet) :
    run.observer.panic? run.request.started = none := by
  cases panicked : run.observer.panic? run.request.started with
  | none => rfl
  | some payload =>
    rw [begin_refused run panicked] at quiet
    exact panicked.symm.trans (Log.Harmless.returned quiet)

theorem Matches.begin (h : Matches run run') (quiet : run.begin.Quiet)
    (quiet' : run'.begin.Quiet) : Matches run.begin run'.begin := by
  have returned := returned_of_quiet quiet
  have returned' := returned_of_quiet quiet'
  rw [begin_proceeds run returned] at quiet
  rw [begin_proceeds run' returned', h.request.target, h.request.effectiveWorkers,
    h.request.started] at quiet'
  rw [begin_proceeds run returned, begin_proceeds run' returned', h.request.target,
    h.request.effectiveWorkers, h.request.started]
  have fresh := h.crew.log.emit run.request.started
  have crew := Crew.matches_ofCounts fresh run.request.target.toNat
    run.request.effectiveWorkers.toNat
  exact (h.crews crew).proceed _ quiet quiet'

theorem Matches.move (h : Matches run run') (step : Step) (quiet : (run.move step).1.Quiet)
    (quiet' : (run'.move step).1.Quiet) : Matches (run.move step).1 (run'.move step).1 := by
  cases step with
  | finish items => exact h.finish items quiet quiet'
  | finishAll outcome =>
    have inFlight : run'.crew.inFlight = run.crew.inFlight := by
      rw [Crew.inFlight, h.crew.stages, Crew.inFlight]
    simp only [Run.move, inFlight] at quiet quiet' ⊢
    exact h.finish _ quiet quiet'
  | wait => exact h
  | cancel => exact h.cancel
  | shutdown => exact h.shutdown quiet quiet'
  | receive | closeReceiver => exact h.outlets _ _

theorem Matches.step (h : Matches run run') (step : Step) (quiet : (run.step step).1.Quiet)
    (quiet' : (run'.step step).1.Quiet) : Matches (run.step step).1 (run'.step step).1 :=
  (h.move step quiet quiet').outlets _ _

theorem step_of_idle {step : Step} (idle : step.drives = false) (run : Run) :
    ∃ outlet, (run.step step).1 = { run with outlet } := by
  cases step with
  | receive | closeReceiver => exact ⟨_, rfl⟩
  | finish | finishAll | wait | cancel | shutdown => cases idle

theorem Matches.idle (h : Matches run run') {steps : List Step}
    (idle : ∀ step ∈ steps, step.drives = false) : Matches run (run'.steps steps).1 := by
  induction steps generalizing run' with
  | nil => exact h
  | cons step rest ih =>
    obtain ⟨first, others⟩ := List.forall_mem_cons.1 idle
    obtain ⟨outlet, same⟩ := step_of_idle first run'
    have waits : Matches run (run'.step step).1 := by
      rw [same]
      exact h.outlets run.outlet outlet
    exact ih waits others

theorem observer_step (run : Run) (step : Step) : (run.step step).1.observer = run.observer := by
  cases step with
  | finish | finishAll | shutdown => exact observer_settle _
  | cancel =>
    show run.cancel.observer = run.observer
    unfold Run.cancel
    split <;> rfl
  | wait | receive | closeReceiver => rfl

theorem Quiet.earlier {run : Run} (steps : List Step) (quiet : (run.steps steps).1.Quiet) :
    run.Quiet := by
  have same : (run.steps steps).1.observer = run.observer := by
    clear quiet
    induction steps generalizing run with
    | nil => rfl
    | cons step rest ih => exact ih.trans (observer_step run step)
  rw [Quiet, same] at quiet
  exact Log.Harmless.earlier quiet (grows_steps run steps)

theorem Matches.steps (h : Matches run run') {steps steps' : List Step}
    (same : steps'.filter Step.drives = steps.filter Step.drives)
    (quiet : (run.steps steps).1.Quiet) (quiet' : (run'.steps steps').1.Quiet) :
    Matches (run.steps steps).1 (run'.steps steps').1 := by
  induction steps generalizing run run' steps' with
  | nil =>
    refine h.idle fun step member => ?_
    simpa using List.filter_eq_nil_iff.1 same step member
  | cons step rest ih =>
    cases drives : step.drives with
    | false =>
      rw [List.filter_cons_of_neg (by simp [drives])] at same
      obtain ⟨outlet, stays⟩ := step_of_idle drives run
      have waits : Matches (run.step step).1 run' := by
        rw [stays]
        exact h.outlets outlet run'.outlet
      exact ih waits same quiet quiet'
    | true =>
      rw [List.filter_cons_of_pos drives] at same
      obtain ⟨before, after, rfl, idle, -, rest'⟩ := List.filter_eq_cons_iff.1 same
      have waits : Matches run (run'.steps before).1 :=
        h.idle fun step member => by simpa using idle step member
      rw [steps_append] at quiet' ⊢
      have next : Matches (run.step step).1 ((run'.steps before).1.step step).1 :=
        waits.step step (Quiet.earlier rest quiet) (Quiet.earlier after quiet')
      exact ih next rest' quiet quiet'

theorem matches_start {request request' : Request} (agrees : request.Agrees request')
    {level level' : Option Level} {plan : Plan} {pool : Pool}
    (quiet : (start request level plan pool).1.Quiet)
    (quiet' : (start request' level' plan pool).1.Quiet) :
    Matches (start request level plan pool).1 (start request' level' plan pool).1 := by
  have origin : Matches (ofRequest request level plan pool) (ofRequest request' level' plan pool) :=
    ⟨agrees, rfl, rfl, rfl, .mk ⟨rfl, fun _ _ _ => rfl⟩⟩
  have invalid' := agrees.invalid?
  cases invalid : request.invalid? with
  | some error =>
    rw [invalid] at invalid'
    simp only [start, invalid, invalid']
    exact ⟨agrees, rfl, rfl, rfl, origin.crew⟩
  | none =>
    rw [invalid] at invalid'
    simp only [start, invalid, invalid'] at quiet quiet' ⊢
    exact (origin.begin quiet quiet').outlets _ _

theorem matches_play {request request' : Request} {level level' : Option Level} {plan : Plan}
    {pool : Pool} {steps steps' : List Step} (agrees : request.Agrees request')
    (same : steps'.filter Step.drives = steps.filter Step.drives)
    (harmless : (play request level plan pool steps).1.crew.log.Harmless request.handler)
    (harmless' : (play request' level' plan pool steps').1.crew.log.Harmless request'.handler) :
    Matches (play request level plan pool steps).1 (play request' level' plan pool steps').1 := by
  have quiet : (play request level plan pool steps).1.Quiet := by
    rw [Quiet, (inPhase_play request level plan pool steps).watched]
    exact harmless
  have quiet' : (play request' level' plan pool steps').1.Quiet := by
    rw [Quiet, (inPhase_play request' level' plan pool steps').watched]
    exact harmless'
  exact (matches_start agrees (Quiet.earlier steps quiet) (Quiet.earlier steps' quiet')).steps
    same quiet quiet'

/-- Two warm-ups that are asked for the same, with attempts that come to the same when the same is
decided, have the same course and the same end. It does not matter who watches them, nor what
happens to events after the calls of the handlers, none of which panics. -/
theorem observers_passive {request request' : Request} {level level' : Option Level} {plan : Plan}
    {pool : Pool} {steps steps' : List Step} (agrees : request.Agrees request')
    (same : steps'.filter Step.drives = steps.filter Step.drives)
    (harmless : (play request level plan pool steps).1.crew.log.Harmless request.handler)
    (harmless' : (play request' level' plan pool steps').1.crew.log.Harmless request'.handler) :
    let run := (play request level plan pool steps).1
    let run' := (play request' level' plan pool steps').1
    run'.crew.stages = run.crew.stages ∧ run'.conclusion = run.conclusion ∧
      run'.pool = run.pool ∧ run'.crew.log.deeds = run.crew.log.deeds ∧
      run'.crew.log.began = run.crew.log.began ∧
      run'.crew.log.results = run.crew.log.results ∧
      run'.crew.log.established = run.crew.log.established ∧
      run'.crew.log.poolCalls = run.crew.log.poolCalls ∧
      (request.handler.isSome = true → request'.handler.isSome = true →
        request'.poolName = request.poolName → run'.crew.log.events = run.crew.log.events) := by
  intro run run'
  have watched (request : Request) (level : Option Level) (steps : List Step) :
      (play request level plan pool steps).1.observer = .ofRequest request level :=
    (inPhase_play request level plan pool steps).watched
  have matched : Matches run run' := matches_play agrees same harmless harmless'
  have logs := matched.crew.log
  have views {α : Type} {find : Happening → Option α}
      (silent : ∀ happening, happening.isTold = true → find happening = none) :
      run'.crew.log.view find = run.crew.log.view find := by
    rw [Log.view_eq_deeds _ silent, Log.view_eq_deeds _ silent, logs.deeds]
  have works {α : Type} {find : Happening → Option α} (work : OfWork find) :
      run'.crew.log.view find = run.crew.log.view find :=
    views fun happening told => work happening (Happening.isWork_of_isTold told)
  refine ⟨matched.crew.stages, matched.conclusion, matched.pool, logs.deeds, works ofWork_began?,
    works ofWork_finished?, works ofWork_established?, views fun happening told => ?_, ?_⟩
  · cases happening with
    | traced | emitted => rfl
    | began | finished | abandoned | neverRun | called | dropped => cases told
  · have events := logs.events
    rw [watched request level steps, watched request' level' steps'] at events
    exact events

/-- One of two warm-ups is traced and has a handler that sends events down a channel with room for
one, from which somebody takes an event before the channel is closed. -/
theorem observers_passive_watched :
    let steps : List Step := [.finishAll fun _ => .ok "a", .wait, .finishAll fun _ => .ok "b"]
    let steps' : List Step := [.finishAll fun _ => .ok "a", .receive 1, .wait, .closeReceiver,
      .finishAll fun _ => .ok "b"]
    let run := (play ⟨2, 1, true, none, none⟩ none (fun _ => none) .fresh steps).1
    let run' := (play ⟨2, 1, true, some "main", some (.channel 1)⟩ (some .trace) (fun _ => none)
      .fresh steps').1
    run.crew.log.size = 6 ∧ run'.crew.log.size = 16 ∧
      run.conclusion = some (.succeeded ⟨2, 0, none⟩) ∧ run'.conclusion = run.conclusion ∧
      run'.crew.log.poolCalls = run.crew.log.poolCalls := by
  intro steps steps' run run'
  obtain ⟨-, conclusion, -, -, -, -, -, poolCalls, -⟩ :=
    @observers_passive ⟨2, 1, true, none, none⟩ ⟨2, 1, true, some "main", some (.channel 1)⟩ none
      (some .trace) (fun _ => none) .fresh steps steps' ⟨rfl, rfl, rfl⟩ rfl
      (by unfold Log.Harmless; decide +kernel) (by unfold Log.Harmless; decide +kernel)
  exact ⟨by decide +kernel, by decide +kernel, by decide +kernel, conclusion, poolCalls⟩

end Run

end Preconnect
