import Preconnect.Proofs.Deaths
import Preconnect.Proofs.KeptFailure

/-!
How much a warm-up bears. One worker that lives to see the queue empty is enough for the warm-up to
come to what it would have come to without any panic. If all of them die, the attempts that nobody
took are the last ones, and the first of these is the failure unless another came before.
-/
namespace Preconnect

theorem Deaths.length_panics {handler : Option Handler} {log : Log} {stages : Array Stage}
    {deaths : List (Nat × Event)} (h : Deaths handler log stages deaths)
    (allDied : ∀ stage ∈ stages, ∃ payload, stage = .ended (.panicked payload)) :
    (log.panics handler).length = stages.size := by
  have everyone : (deaths.map (·.1)).Perm (List.range stages.size) := by
    rw [List.perm_ext_iff_of_nodup h.workers List.nodup_range]
    intro worker
    rw [List.mem_range]
    constructor
    · intro member
      obtain ⟨death, among, rfl⟩ := List.mem_map.1 member
      obtain ⟨_, _, payload, -, -, ended, -⟩ := h.each death among
      exact (Array.getElem?_eq_some_iff.1 ended).1
    · intro bound
      obtain ⟨payload, died⟩ := allDied _ (Array.getElem_mem bound)
      exact h.all worker payload ((Array.getElem?_eq_getElem bound).trans (congrArg some died))
  rw [← h.events, List.length_map, ← List.length_map, everyone.length_eq, List.length_range]

namespace Run

open Crew

/-- A run of the request in which attempts come to the given outcomes. Nobody stops it or its
workers, and nothing panics except for the handler when it is told of the results of attempts. -/
structure Endures (request : Request) (outcomes : Nat → Outcome) (run : Run) : Prop where
  valid : request.invalid? = none
  played : ∃ level plan pool steps, run = (play request level plan pool steps).1 ∧
    plan.Within (request.supplies outcomes) ∧
    (∀ step ∈ steps, step.Within (request.supplies outcomes)) ∧
    pool.takes run.crew.log.poolCalls = true
  calm : run.crew.log.Calm request.handler
  uncancelled : .ended .cancelled ∉ run.crew.stages
  pursued : run.conclusion ≠ some .cancelled

/-- What a warm-up comes to whose workers have all died after so many attempts were taken. -/
structure Deserted (request : Request) (outcomes : Nat → Outcome) (taken : Nat) (run : Run) :
    Prop where
  bound : taken ≤ request.target.toNat
  panics : (run.crew.log.panics request.handler).length =
    (min request.target request.workers).toNat
  began : run.crew.log.began.Perm (List.range taken)
  neverRun : run.crew.log.neverRun = List.range' taken (request.target.toNat - taken)
  silent : ∀ event ∈ run.crew.log.events, ∀ attempt ∈ run.crew.log.neverRun,
    event.notice.attempt? ≠ some attempt
  decided : Decided request.failFast (connected outcomes taken)
    (missing outcomes taken request.target.toNat) run
  reported : failing outcomes taken = [] → taken < request.target.toNat →
    (request.failFast = true →
      run.conclusion = some (.failed ⟨.warmupFailed (.ofNeverRun taken)⟩)) ∧
    (request.failFast = false → ∃ summary, run.conclusion = some (.succeeded summary) ∧
      summary.firstFailure = some (.ofNeverRun taken))

section
variable {request : Request} {observer : Observer} {plan : Plan} {supply : Supply}
  {pool after : Pool} {crew : Crew} {conclusion : Option Conclusion} {outcomes : Nat → Outcome}

theorem Phase.begins (phase : Phase request observer plan supply pool crew after conclusion)
    (valid : request.invalid? = none) (calm : crew.log.Calm observer.handler) :
    request.Begins observer := by
  cases phase with
  | rejected invalid => cases valid.symm.trans invalid
  | @refused payload _ panicked =>
    have told : observer.event request.started ∈
        (observer.emit {} request.started).view Happening.emitted? := by
      simp [Observer.told, Observer.wantsEvents_of_panic panicked]
    exact ⟨valid, calm _ told rfl⟩
  | running begins | dropped begins | settled begins => exact begins

theorem Phase.deaths (phase : Phase request observer plan supply pool crew after conclusion)
    (valid : request.invalid? = none) (calm : crew.log.Calm observer.handler)
    (pursued : conclusion ≠ some .cancelled) :
    ∃ deaths, Deaths observer.handler crew.log crew.stages deaths := by
  have returned := (phase.begins valid calm).returned
  cases phase with
  | rejected invalid => cases valid.symm.trans invalid
  | refused _ panicked => cases returned.symm.trans panicked
  | running begins paused => exact deaths_reached returned paused.reached
  | dropped => exact absurd rfl pursued
  | settled begins paused =>
    obtain ⟨deaths, h⟩ := deaths_reached returned paused.reached
    exact ⟨deaths, deaths_settle (faithful_reached paused.reached) calm h⟩

theorem Phase.returned (phase : Phase request observer plan supply pool crew after conclusion)
    (valid : request.invalid? = none) (calm : crew.log.Calm observer.handler)
    (pursued : conclusion ≠ some .cancelled) (takes : pool.takes crew.log.poolCalls = true)
    (allOver : crew.isOver = true) :
    ∃ worked, Paused request observer plan supply worked ∧ worked.isOver = true ∧
      crew = (worked.settle request observer pool).1 ∧
      conclusion = some (worked.settle request observer pool).2.2 ∧
      (worked.settle request observer pool).2.2.isReturn = true := by
  have returned := (phase.begins valid calm).returned
  cases phase with
  | rejected invalid => cases valid.symm.trans invalid
  | refused _ panicked => cases returned.symm.trans panicked
  | running _ _ alive => cases alive.symm.trans allOver
  | dropped => exact absurd rfl pursued
  | @settled worked begins paused ended =>
    exact ⟨worked, paused, ended, rfl, rfl, (settle_returns (faithful_reached paused.reached)
      calm).2 takes⟩

theorem Phase.tells_of_results
    (phase : Phase request observer plan supply pool crew after conclusion)
    (valid : request.invalid? = none) {event : Event} (member : event ∈ crew.log.events)
    {attempt : Nat} (about : event.notice.attempt? = some attempt) :
    attempt ∈ crew.log.results.map (·.1) := by
  obtain ⟨tail, events, closing⟩ := phase.tells valid
  rw [events, Observer.told] at member
  split at member
  · obtain ⟨notice, among, rfl⟩ := List.mem_map.1 member
    rcases List.mem_append.1 among with early | late
    · rcases List.mem_cons.1 early with rfl | early
      · cases about
      · obtain ⟨⟨other, _ | _⟩, recorded, rfl⟩ := List.mem_map.1 early <;>
        · cases about
          exact List.mem_map_of_mem recorded
    · have unsettled := (closing.unsettled notice late).2.1
      have closed : notice.closed? = some attempt := by
        cases notice with
        | closed => exact about
        | established | attemptFailed => cases unsettled
        | started | succeeded | failed => cases about
      have arrived := closing.closed.subset (List.mem_filterMap.2 ⟨notice, late, closed⟩)
      obtain ⟨established, recorded, rfl⟩ := List.mem_map.1 arrived
      obtain ⟨happening, written, found⟩ := List.mem_filterMap.1 recorded
      obtain _ | ⟨worker, attempt, _ | connection⟩ | _ | _ := happening <;> cases found
      exact List.mem_map.2
        ⟨(attempt, .ok connection), List.mem_filterMap.2 ⟨_, written, rfl⟩, rfl⟩
  · cases member

theorem kept_of_spent {taken : Nat}
    (spent : Spent request observer (request.supplies outcomes) taken crew) (pool : Pool)
    (flawless : failing outcomes taken = []) (left : taken < request.target.toNat) :
    (crew.settle request observer pool).1.firstFailure.kept = some (.ofNeverRun taken) := by
  have none : crew.log.results.filterMap Failure.ofResult? = [] := by
    rw [List.filterMap_eq_nil_iff]
    intro item member
    obtain ⟨attempt, known, rfl⟩ := List.mem_map.1 (spent.results_perm.mem_iff.1 member)
    have connects := List.filter_eq_nil_iff.1 flawless attempt known
    cases h : outcomes attempt with
    | ok => rfl
    | fail | panic | earlyPanic => simp [h, Outcome.connection?] at connects
  rw [Crew.kept_settle (faithful_reached spent.reached), failures_settle spent.reached, none,
    spent.queue, List.nil_append, List.head?_map, List.head?_range', if_neg (by omega)]
  rfl

theorem deserted_of_spent {run : Run} {taken : Nat}
    (phase : Phase request observer plan (request.supplies outcomes) pool run.crew after
      run.conclusion)
    (valid : request.invalid? = none)
    (spent : Spent request observer (request.supplies outcomes) taken crew)
    (settled : run.crew = (crew.settle request observer pool).1)
    (concludes : run.conclusion = some (crew.settle request observer pool).2.2)
    (returned : (crew.settle request observer pool).2.2.isReturn = true)
    (panics : (run.crew.log.panics request.handler).length = run.crew.stages.size) :
    Deserted request outcomes taken run := by
  have decided := decided_of_spent spent settled concludes returned
  have neverRun : run.crew.log.neverRun = List.range' taken (request.target.toNat - taken) := by
    rw [settled, neverRun_settle spent.reached, spent.queue]
  refine ⟨spent.bound, ?_, ?_, neverRun, ?_, decided, fun flawless left => ?_⟩
  · rw [panics, settled, stages_settle, size_reached spent.reached]
    rfl
  · rw [settled]
    exact spent.began_settle pool
  · intro event member attempt never about
    have result := phase.tells_of_results valid member about
    rw [settled, results_settle, spent.attempts_perm.mem_iff, List.mem_range] at result
    rw [neverRun, List.mem_range'_1] at never
    omega
  · have kept := kept_of_spent spent pool flawless left
    rw [← settled] at kept
    obtain ⟨_, -, -, -, failed, succeeded⟩ := phase.tells_failures valid
    have some : missing outcomes taken request.target.toNat ≠ [] := by
      rw [missing, flawless, List.nil_append, ne_eq, List.range'_eq_nil_iff]
      omega
    constructor
    · intro strict
      obtain ⟨⟨failure, ends⟩, -⟩ := decided.failed ⟨strict, some⟩
      obtain ⟨other, _, same, keeps, -⟩ := failed _ ends
      cases same
      rw [ends, Option.some.inj (keeps.symm.trans kept)]
    · intro lenient
      obtain ⟨⟨summary, ends, -⟩, -⟩ := decided.succeeded (by simp [lenient])
      exact ⟨summary, ends, (succeeded summary ends).trans kept⟩

end

/-- A panic of the handler ends the worker that called it, which has recorded the result of its
attempt. The warm-up returns all the same. If a worker is left at the end, nothing is missing from
what the warm-up comes to, and if none is, the attempts that nobody took are failures. -/
theorem handler_panics_tolerated {request : Request} {outcomes : Nat → Outcome} {run : Run}
    (endures : Endures request outcomes run) :
    (∃ deaths, Deaths request.handler run.crew.log run.crew.stages deaths) ∧
      (run.crew.isOver = true → run.conclusion.any Conclusion.isReturn = true) ∧
      (run.crew.isOver = true → .ended .stopped ∈ run.crew.stages →
        Verdict request.target.toNat request.failFast outcomes run ∧
          ∀ (request' : Request) (run' : Run), request'.target = request.target →
            request'.failFast = request.failFast → Completes request' outcomes run' →
            (∃ ended ended', run.conclusion = some ended ∧ run'.conclusion = some ended' ∧
              ended.Alike ended') ∧
            run.crew.log.poolCalls.Perm run'.crew.log.poolCalls) ∧
      ((∀ stage ∈ run.crew.stages, ∃ payload, stage = .ended (.panicked payload)) →
        ∃ taken, Deserted request outcomes taken run) := by
  obtain ⟨valid, ⟨level, plan, pool, steps, played, within, supplied, takes⟩, calm, uncancelled,
    pursued⟩ := endures
  have inPhase : InPhase request (.ofRequest request level) plan (request.supplies outcomes) pool
      run := played ▸ inPhase_play_within request level pool within steps supplied
  have phase := inPhase.phase
  obtain ⟨deaths, h⟩ := phase.deaths valid calm pursued
  -- Once all have ended, there is a settled crew that took the first attempts from the queue.
  have spent (allOver : run.crew.isOver = true) :
      ∃ worked taken,
        Spent request (.ofRequest request level) (request.supplies outcomes) taken worked ∧
        run.crew = (worked.settle request (.ofRequest request level) pool).1 ∧
        run.conclusion = some (worked.settle request (.ofRequest request level) pool).2.2 ∧
        (worked.settle request (.ofRequest request level) pool).2.2.isReturn = true := by
    obtain ⟨worked, paused, ended, settled, concludes, returned⟩ :=
      phase.returned valid calm pursued takes allOver
    obtain ⟨taken, bound, queue⟩ := holdsLast_reached paused.reached
    refine ⟨worked, taken, ⟨paused.reached, ended, bound, queue, ?_⟩, settled, concludes, returned⟩
    refine abandoned_of_uncancelled paused.reached fun worker here => uncancelled ?_
    rw [settled, stages_settle]
    exact Array.mem_of_getElem? here
  refine ⟨⟨deaths, h⟩, fun allOver => ?_, fun allOver stopped => ?_, fun allDied => ?_⟩
  · obtain ⟨worked, taken, -, -, concludes, returned⟩ := spent allOver
    rw [concludes]
    exact returned
  · obtain ⟨worked, taken, spent, settled, concludes, returned⟩ := spent allOver
    rw [settled, stages_settle] at stopped
    obtain ⟨worker, here⟩ := Array.mem_iff_getElem?.1 stopped
    have empty := stopsLast_reached spent.reached worker here
    rw [spent.queue, List.range'_eq_nil_iff] at empty
    have bound := spent.bound
    obtain rfl : taken = request.target.toNat := by omega
    have verdict := verdict_of_spent spent settled concludes returned
    refine ⟨verdict, fun request' run' target failFast completes => ?_⟩
    have verdict' := verdict_of_completes completes
    rw [target, failFast] at verdict'
    exact ⟨alike_of_verdict verdict verdict', poolCalls_of_verdict verdict verdict'⟩
  · have allOver : run.crew.isOver = true := by
      rw [Crew.isOver, Array.all_eq_true']
      intro stage member
      obtain ⟨payload, rfl⟩ := allDied stage member
      rfl
    obtain ⟨worked, taken, spent, settled, concludes, returned⟩ := spent allOver
    exact ⟨taken, deserted_of_spent phase valid spent settled concludes returned
      (h.length_panics allDied)⟩

def fragile : Handler := .asyncCallback
  (fun event => if event.notice = .established 0 ∨ event.notice = .established 1 then
    some (.text "no more") else none) fun _ => false

/-- Both workers die of their first attempts, and nobody is left for the other two. -/
theorem handler_panics_tolerated_fragile :
    let request : Request := ⟨4, 2, true, none, some fragile⟩
    let run := (play request none (fun _ => none) .fresh [.finishAll fun _ => .ok "c"]).1
    run.conclusion = some (.failed ⟨.warmupFailed (.ofNeverRun 2)⟩) ∧
      run.crew.log.poolCalls = [.close "c", .close "c"] ∧
      ∃ taken, Deserted request (fun _ => .ok "c") taken run := by
  intro request run
  have flying : (start request none (fun _ => none) .fresh).1.crew.inFlight = [0, 1] :=
    Crew.inFlight_of_ascending (by decide +kernel) (by decide)
  have same : run = (play request none (fun _ => none) .fresh
      [.finish [(0, .ok "c"), (1, .ok "c")]]).1 := by
    simp only [run, play, steps, step_finishAll flying, List.map]
  rw [same]
  have stages : (play request none (fun _ => none) .fresh
      [.finish [(0, .ok "c"), (1, .ok "c")]]).1.crew.stages =
      #[.ended (.panicked (.text "no more")), .ended (.panicked (.text "no more"))] := by
    decide +kernel
  have endures : Endures request (fun _ => .ok "c") run := by
    rw [same]
    refine ⟨by decide +kernel, ⟨none, _, .fresh, _, rfl, by simp [Plan.Within], ?_, by
      decide +kernel⟩, ?_, by simp [stages], by decide +kernel⟩
    · intro step member
      rw [List.mem_singleton.1 member]
      intro item among _
      rcases List.mem_pair.1 among with rfl | rfl <;> rfl
    · unfold Log.Calm
      decide +kernel
  exact ⟨by decide +kernel, by decide +kernel,
    (handler_panics_tolerated (same ▸ endures)).2.2.2 (by simp [stages])⟩

end Run

end Preconnect
