import Preconnect.Proofs.KeptFailure
import Preconnect.Proofs.Policy
import Preconnect.Proofs.Veil

/-!
Attempts do not depend on one another. What comes of some of them changes neither which worker
begins which attempt, nor when, nor what is recorded and told of the others.
-/
namespace Preconnect

namespace Labor

variable {hidden : Nat → Bool} {request : Request} {observer : Observer} {plan plan' : Plan}
  {pool : Pool} {labor labor' : Labor}

/-- The labors have come as far as each other, and differ in the results of attempts that are not
looked at. -/
structure SameBut (hidden : Nat → Bool) (labor labor' : Labor) : Prop where
  crew : Crew.SameBut hidden labor.crew labor'.crew
  givenUp : labor'.givenUp = labor.givenUp

theorem SameBut.heed (h : SameBut hidden labor labor') (plans : plan.Alike hidden plan')
    {step step' : Step} (alike : step.Alike hidden step')
    (quiet : (labor.heed observer plan step).crew.log.Harmless observer.handler)
    (quiet' : (labor'.heed observer plan' step').crew.log.Harmless observer.handler) :
    SameBut hidden (labor.heed observer plan step) (labor'.heed observer plan' step') := by
  have same : step'.givesUp = step.givesUp := by cases alike <;> rfl
  unfold Labor.heed at quiet quiet' ⊢
  rw [h.crew.isOver] at quiet' ⊢
  split at quiet
  · rename_i allOver
    rw [if_pos allOver, if_pos allOver]
    exact h
  · rename_i alive
    rw [if_neg alive] at quiet' ⊢
    rw [if_neg alive]
    exact ⟨h.crew.heed plans alike quiet quiet', same⟩

theorem SameBut.steps (h : SameBut hidden labor labor') (plans : plan.Alike hidden plan')
    {steps steps' : List Step} (alike : List.Forall₂ (Step.Alike hidden) steps steps')
    (quiet : (steps.foldl (Labor.heed observer plan) labor).crew.log.Harmless observer.handler)
    (quiet' : (steps'.foldl (Labor.heed observer plan') labor').crew.log.Harmless
      observer.handler) :
    SameBut hidden (steps.foldl (Labor.heed observer plan) labor)
      (steps'.foldl (Labor.heed observer plan') labor') := by
  induction alike generalizing labor labor' with
  | nil => exact h
  | @cons step step' rest rest' first others ih =>
    have now := quiet.earlier (grows_foldl observer plan (labor.heed observer plan step) rest)
    have now' := quiet'.earlier
      (grows_foldl observer plan' (labor'.heed observer plan' step') rest')
    exact ih (h.heed plans first now now') quiet quiet'

end Labor

structure ResultsSameBut (hidden : Nat → Bool) (shown shown' : Crew × Pool × Option Conclusion) :
    Prop where
  stages : shown'.1.stages.map (Stage.veiled hidden) = shown.1.stages.map (Stage.veiled hidden)
  work : shown'.1.log.view (Happening.veiled? hidden) = shown.1.log.view (Happening.veiled? hidden)
  concluded : shown'.2.2.isSome = shown.2.2.isSome

variable {hidden : Nat → Bool}

theorem Labor.SameBut.results {labor labor' : Labor} (h : SameBut hidden labor labor')
    (request : Request) (observer : Observer) (pool pool' : Pool) :
    ResultsSameBut hidden (labor.result request observer pool)
      (labor'.result request observer pool') := by
  have work := ofWork_veiled? hidden
  have ended := h.crew.isOver
  cases allOver : labor.crew.isOver with
  | false =>
    rw [labor.result_of_alive allOver, labor'.result_of_alive (ended.trans allOver)]
    exact ⟨h.crew.stages, h.crew.work, rfl⟩
  | true =>
    cases givenUp : labor.givenUp with
    | true =>
      rw [labor.result_of_givenUp allOver givenUp,
        labor'.result_of_givenUp (ended.trans allOver) (h.givenUp.trans givenUp)]
      refine ⟨h.crew.stages, ?_, rfl⟩
      rw [Crew.view_dropped _ work, Crew.view_dropped _ work, h.crew.work]
    | false =>
      rw [labor.result_of_done allOver givenUp,
        labor'.result_of_done (ended.trans allOver) (h.givenUp.trans givenUp)]
      refine ⟨?_, ?_, rfl⟩
      · rw [Crew.stages_settle, Crew.stages_settle, h.crew.stages]
      · rw [Crew.view_settle work, Crew.view_settle work,
          Crew.view_joined _ _ work.untraced, Crew.view_joined _ _ work.untraced, h.crew.work,
          h.crew.queue]

/-- A crew that is told of different results does not get out of step. -/
theorem Crew.sameBut_labor {observer : Observer} {plan plan' : Plan}
    (crew : Crew) (plans : plan.Alike hidden plan') {steps steps' : List Step}
    (alike : List.Forall₂ (Step.Alike hidden) steps steps')
    (quiet : (crew.labor observer plan steps).crew.log.Harmless observer.handler)
    (quiet' : (crew.labor observer plan' steps').crew.log.Harmless observer.handler) :
    Labor.SameBut hidden (crew.labor observer plan steps) (crew.labor observer plan' steps') := by
  let workers := List.range crew.stages.size
  have first := quiet.earlier
    (Labor.grows_foldl observer plan { crew := crew.turns observer plan workers } steps)
  have first' := quiet'.earlier
    (Labor.grows_foldl observer plan' { crew := crew.turns observer plan' workers } steps')
  have started : Labor.SameBut hidden { crew := crew.turns observer plan workers }
      { crew := crew.turns observer plan' workers } :=
    ⟨(SameBut.refl crew).turns plans workers first first', rfl⟩
  exact started.steps plans alike quiet quiet'

namespace Happening

def start? : Happening → Option (Nat × Nat)
  | began worker attempt => some (worker, attempt)
  | _ => none

end Happening

namespace Log

def starts (log : Log) : List (Nat × Nat) := log.view Happening.start?

theorem map_starts (log : Log) : log.starts.map (·.2) = log.began := by
  rw [starts, began, view, view, List.map_filterMap]
  refine List.filterMap_congr fun happening _ => ?_
  cases happening <;> rfl

def resultsOf (attempt : Nat) (log : Log) : List (Nat × Except Error Connection) :=
  log.results.filter (·.1 == attempt)

def eventsOf (attempt : Nat) (log : Log) : List Event :=
  log.events.filter fun event => event.notice.settled? == some attempt

def offers (log : Log) : List PoolCall :=
  log.results.filterMap fun result => result.2.toOption.map .accept

theorem offers_eq (log : Log) : log.established.map Established.accept = log.offers := by
  rw [offers, established, results, view, view, List.map_filterMap, List.filterMap_filterMap]
  refine List.filterMap_congr fun happening _ => ?_
  obtain _ | ⟨_, _, _ | _⟩ | _ | _ := happening <;> rfl

variable {log log' : Log}

theorem view_of_veiled {α : Type} {find : Happening → Option α}
    (reads : ∀ happening, (happening.veiled? hidden).bind find = find happening)
    (same : log'.view (Happening.veiled? hidden) = log.view (Happening.veiled? hidden)) :
    log'.view find = log.view find := by
  have through (log : Log) :
      (log.view (Happening.veiled? hidden)).filterMap find = log.view find := by
    rw [view, view, List.filterMap_filterMap]
    exact List.filterMap_congr fun happening _ => reads happening
  rw [← through, same, through]

theorem starts_of_veiled
    (same : log'.view (Happening.veiled? hidden) = log.view (Happening.veiled? hidden)) :
    log'.starts = log.starts := by
  refine view_of_veiled (fun happening => ?_) same
  cases happening <;> rfl

theorem finishes_of_veiled
    (same : log'.view (Happening.veiled? hidden) = log.view (Happening.veiled? hidden)) :
    log'.results.map (·.1) = log.results.map (·.1) := by
  rw [results, results, view, view, List.map_filterMap, List.map_filterMap]
  refine view_of_veiled (fun happening => ?_) same
  cases happening <;> rfl

theorem resultsOf_of_veiled
    (same : log'.view (Happening.veiled? hidden) = log.view (Happening.veiled? hidden))
    {attempt : Nat} (looked : hidden attempt = false) :
    log'.resultsOf attempt = log.resultsOf attempt := by
  rw [resultsOf, resultsOf, results, results, view, view, List.filter_filterMap,
    List.filter_filterMap]
  refine view_of_veiled (fun happening => ?_) same
  cases happening with
  | finished worker other result =>
    by_cases same : other = attempt
    · subst same
      simp [veil, looked]
    · simp [Option.filter, same]
  | began | abandoned | neverRun | traced | emitted | called | dropped => rfl

end Log

namespace Run

open Crew

variable {request : Request} {observer : Observer} {plan plan' : Plan} {supply : Supply}
  {pool pool' after : Pool} {crew : Crew} {conclusion : Option Conclusion}
  {steps steps' : List Step} {labor : Labor} {run run' : Run}

theorem Phase.eventsOf (phase : Phase request observer plan supply pool crew after conclusion)
    (attempt : Nat) :
    crew.log.eventsOf attempt =
      observer.told
        ((crew.log.resultsOf attempt).map fun result => .ofResult result.1 result.2) := by
  have about : crew.log.eventsOf attempt =
      crew.log.attemptEvents.filter fun event => event.notice.settled? == some attempt := by
    rw [Log.eventsOf, Log.attemptEvents, List.filter_filter]
    refine List.filter_congr fun event _ => ?_
    cases event.notice.settled? <;> simp
  rw [about, phase.attemptEvents,
    observer.filter_told (fun notice => notice.settled? == some attempt), List.filter_map,
    Log.resultsOf]
  congr 2
  refine List.filter_congr fun result _ => ?_
  obtain ⟨other, _ | _⟩ := result <;> simp [Notice.ofResult]

theorem Phase.starts_nodup
    (phase : Phase request observer plan supply pool crew after conclusion) :
    (crew.log.starts.map (·.2)).Nodup := by
  obtain ⟨worked, reached, same, -⟩ := phase.worked
  rw [Log.map_starts, Log.began, same ofWork_began? fun _ => rfl]
  exact began_nodup reached

/-- The same workers have begun the same attempts, each once, and come to the end of the same
attempts, in one order. An attempt whose result is the same is told of in the same way. -/
structure SameWorkBut (hidden : Nat → Bool) (run run' : Run) : Prop where
  stages : run'.crew.stages.map (Stage.veiled hidden) = run.crew.stages.map (Stage.veiled hidden)
  work : run'.crew.log.view (Happening.veiled? hidden) =
    run.crew.log.view (Happening.veiled? hidden)
  starts : run'.crew.log.starts = run.crew.log.starts
  once : (run.crew.log.starts.map (·.2)).Nodup
  finishes : run'.crew.log.results.map (·.1) = run.crew.log.results.map (·.1)
  results : ∀ attempt, hidden attempt = false →
    run'.crew.log.resultsOf attempt = run.crew.log.resultsOf attempt
  events : ∀ attempt, run'.crew.log.resultsOf attempt = run.crew.log.resultsOf attempt →
    run'.crew.log.eventsOf attempt = run.crew.log.eventsOf attempt
  concluded : run'.conclusion.isSome = run.conclusion.isSome

/-- The results are those provided, and the connections among them are accepted in the order in
which they came, all of them if the warm-up returns. -/
structure Accepts (supply : Supply) (run : Run) : Prop where
  results : ∀ item ∈ run.crew.log.results, ∃ outcome, supply item.1 outcome ∧
    item.2 = outcome.result
  accepted : run.crew.log.poolCalls <+: run.crew.log.offers
  all : run.conclusion.any Conclusion.isReturn = true →
    run.crew.log.poolCalls = run.crew.log.offers

theorem InPhase.accepts (inPhase : InPhase request observer plan supply pool run)
    (lenient : request.failFast = false) : Accepts supply run := by
  refine ⟨inPhase.phase.conforms, ?_, fun returned => ?_⟩
  · obtain ⟨taken, part, accepts | ⟨-, strict, -⟩⟩ := inPhase.phase.dealt.calls
    · rw [accepts, ← Log.offers_eq]
      exact part.map _
    · cases lenient.symm.trans strict
  · obtain ⟨ended, concludes, returns⟩ := (Option.any_eq_true _ _).1 returned
    by_cases valid : request.invalid? = none
    · obtain ⟨tail, -, course⟩ := inPhase.phase.course valid concludes returns
      rw [← Log.offers_eq]
      exact (course.succeeds lenient returns).2.1
    · rw [inPhase.phase.log_of_invalid valid]
      rfl

theorem HasResultOf.grows (hasResult : HasResultOf request observer plan pool labor run) :
    labor.crew.log.Grows run.crew.log := by
  have crew : run.crew = (labor.result request observer pool).1 := congrArg (·.1) hasResult.result
  rw [crew]
  exact labor.grows_result request observer pool

theorem resultsSameBut_play (level : Option Level) (plans : plan.Alike hidden plan')
    (alike : List.Forall₂ (Step.Alike hidden) steps steps')
    (harmless : (play request level plan pool steps).1.crew.log.Harmless request.handler)
    (harmless' : (play request level plan' pool' steps').1.crew.log.Harmless request.handler) :
    let run := (play request level plan pool steps).1
    let run' := (play request level plan' pool' steps').1
    ResultsSameBut hidden (run.crew, run.pool, run.conclusion)
      (run'.crew, run'.pool, run'.conclusion) := by
  intro run run'
  let observer := Observer.ofRequest request level
  have inPhase : InPhase request observer plan anything pool run :=
    inPhase_play request level plan pool steps
  have inPhase' : InPhase request observer plan' anything pool' run' :=
    inPhase_play request level plan' pool' steps'
  cases valid : request.invalid? with
  | some error =>
    rw [inPhase.phase.of_invalid valid, inPhase'.phase.of_invalid valid]
    exact ⟨rfl, rfl, rfl⟩
  | none =>
    cases panics : observer.panic? request.started with
    | some payload =>
      rw [inPhase.phase.of_panic valid panics, inPhase'.phase.of_panic valid panics]
      exact ⟨rfl, rfl, rfl⟩
    | none =>
      have begins : request.Begins observer := ⟨valid, panics⟩
      have hasResult := hasResultOf_play begins plan pool steps
      have hasResult' := hasResultOf_play begins plan' pool' steps'
      have labors := (request.crew observer).sameBut_labor plans alike
        (harmless.earlier hasResult.grows) (harmless'.earlier hasResult'.grows)
      rw [hasResult.result, hasResult'.result]
      exact labors.results request observer pool pool'

/-- What some attempts come to is of no account for the others, and for what is begun and when. Two
warm-ups with the same request and the same decisions, in which no handler panics, have the same
workers begin the same attempts and finish them in the same order, though the attempts come to
different results; those that come to the same are told of in the same events. If failures do not
count, each of the two accepts the connections that its attempts came to, in that order. The crews
do not get out of step either when their workers take turns in any other way. -/
theorem attempts_independent {request : Request} {level : Option Level} {plan plan' : Plan}
    {pool pool' : Pool} {steps steps' : List Step} {hidden : Nat → Bool}
    (plans : plan.Alike hidden plan') (alike : List.Forall₂ (Step.Alike hidden) steps steps')
    (harmless : (play request level plan pool steps).1.crew.log.Harmless request.handler)
    (harmless' : (play request level plan' pool' steps').1.crew.log.Harmless request.handler) :
    let run := (play request level plan pool steps).1
    let run' := (play request level plan' pool' steps').1
    SameWorkBut hidden run run' ∧
      (request.failFast = false →
        Accepts (supplied plan steps) run ∧ Accepts (supplied plan' steps') run') ∧
      ∀ actions actions' : List Action,
        let observer := Observer.ofRequest request level
        let crew := (request.crew observer).run observer actions
        let crew' := (request.crew observer).run observer actions'
        ActionsSameBut hidden observer (request.crew observer) actions actions' →
          crew.log.Harmless request.handler → crew'.log.Harmless request.handler →
            crew.SameBut hidden crew' := by
  intro run run'
  obtain ⟨planned, stepped⟩ := within_supplied plan steps
  obtain ⟨planned', stepped'⟩ := within_supplied plan' steps'
  have inPhase : InPhase request (.ofRequest request level) plan (supplied plan steps) pool run :=
    inPhase_play_within request level pool planned steps stepped
  have inPhase' :
      InPhase request (.ofRequest request level) plan' (supplied plan' steps') pool' run' :=
    inPhase_play_within request level pool' planned' steps' stepped'
  have results := resultsSameBut_play level plans alike harmless harmless'
  refine ⟨⟨results.stages, results.work, Log.starts_of_veiled results.work,
    inPhase.phase.starts_nodup, Log.finishes_of_veiled results.work,
    fun attempt => Log.resultsOf_of_veiled results.work, fun attempt same => ?_,
    results.concluded⟩, fun lenient => ⟨inPhase.accepts lenient, inPhase'.accepts lenient⟩,
    fun actions actions' => ?_⟩
  · rw [inPhase'.phase.eventsOf, inPhase.phase.eventsOf, same]
  · intro observer crew crew' both quiet quiet'
    have start : (request.crew observer).SameBut hidden (request.crew observer) :=
      .refl (request.crew observer)
    exact start.run both quiet quiet'

/-- Of three attempts one comes to a panic instead of a connection, and another, which is over at
once, to a failure. -/
theorem attempts_independent_unlucky :
    let handler : Handler := .callback (PanicRule.first? [⟨"WarmupFailed", none, none⟩])
    let request : Request := ⟨3, 2, false, none, some handler⟩
    let plan : Plan := fun attempt => if attempt = 2 then some (.ok "c") else none
    let plan' : Plan := fun attempt =>
      if attempt = 2 then some (.fail ⟨.establishment "refused"⟩) else none
    let steps : List Step := [.finish [(1, .ok "b"), (0, .ok "a")]]
    let steps' : List Step := [.finish [(1, .panic (.text "lost")), (0, .ok "a")]]
    let run := (play request none plan .fresh steps).1
    let run' := (play request none plan' .fresh steps').1
    run'.crew.log.starts = [(0, 0), (1, 1), (1, 2)] ∧
      run'.crew.log.results.map (·.1) = [1, 2, 0] ∧
      run'.crew.log.eventsOf 0 = run.crew.log.eventsOf 0 ∧
      run.crew.log.poolCalls = [.accept "b", .accept "c", .accept "a"] ∧
      run'.crew.log.poolCalls = [.accept "a"] := by
  intro handler request plan plan' steps steps' run run'
  let hidden : Nat → Bool := fun attempt => attempt != 0
  have plans : plan.Alike hidden plan' := by
    intro attempt
    by_cases last : attempt = 2
    · subst last
      exact .some fun looked => by cases looked
    · simp only [plan, plan', if_neg last]
      exact .none
  have alike : List.Forall₂ (Step.Alike hidden) steps steps' :=
    .cons (.finish (.cons ⟨rfl, fun looked => by cases looked⟩ (.cons ⟨rfl, fun _ => rfl⟩ .nil)))
      .nil
  obtain ⟨sameWork, lenient, -⟩ := @attempts_independent request none plan plan' .fresh .fresh steps
    steps' hidden plans alike (by unfold Log.Harmless; decide +kernel)
    (by unfold Log.Harmless; decide +kernel)
  obtain ⟨accepts, accepts'⟩ := lenient rfl
  refine ⟨sameWork.starts.trans ?_, sameWork.finishes.trans ?_,
    sameWork.events 0 (sameWork.results 0 rfl), (accepts.all ?_).trans ?_,
    (accepts'.all ?_).trans ?_⟩ <;> decide +kernel

end Run

end Preconnect
