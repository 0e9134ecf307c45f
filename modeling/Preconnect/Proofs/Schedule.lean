import Preconnect.Proofs.Conservation
import Preconnect.Proofs.Phase

/-!
Independence of the schedule. The number of workers, the attempts that are over at once and the
order in which the others are finished decide who arrives first and which failure is kept. All else
that a warm-up comes to is decided by the outcomes of its attempts.
-/
namespace Preconnect

def Outcome.connection? : Outcome → Option Connection
  | ok connection => some connection
  | fail _ | panic _ | earlyPanic _ => none

@[simp] theorem Outcome.toOption_result (outcome : Outcome) :
    outcome.result.toOption = outcome.connection? := by
  cases outcome <;> rfl

def connected (outcomes : Nat → Outcome) (target : Nat) : List Connection :=
  (List.range target).filterMap fun attempt => (outcomes attempt).connection?

def failing (outcomes : Nat → Outcome) (target : Nat) : List Nat :=
  (List.range target).filter fun attempt => (outcomes attempt).connection?.isNone

theorem length_connected_add_failing (outcomes : Nat → Outcome) (target : Nat) :
    (connected outcomes target).length + (failing outcomes target).length = target := by
  unfold connected failing
  induction target with
  | zero => rfl
  | succ target ih =>
    rw [List.range_succ, List.filterMap_append, List.filter_append]
    cases h : (outcomes target).connection? <;> simp [h] <;> omega

/-- The establisher does with each attempt of the request what the outcomes say. -/
def Request.supplies (request : Request) (outcomes : Nat → Outcome) : Crew.Supply :=
  fun attempt outcome => attempt < request.target.toNat → outcome = outcomes attempt

theorem Request.workers_pos {request : Request} (valid : request.invalid? = none) :
    0 < request.effectiveWorkers.toNat := by
  have target : request.target ≠ 0 := by
    intro none
    simp [invalid?, fault?, none] at valid
  have workers : request.workers ≠ 0 := by
    intro none
    simp [invalid?, fault?, none, target] at valid
  have some : request.effectiveWorkers ≠ 0 := by
    show (if request.target ≤ request.workers then request.target else request.workers) ≠ 0
    split <;> assumption
  exact Nat.pos_of_ne_zero fun none => some (UInt32.toNat.inj none)

namespace Crew

variable {observer : Observer} {supply : Supply} {request : Request} {outcomes : Nat → Outcome}
  {action : Action} {crew crew' : Crew}

structure Conforms (supply : Supply) (crew : Crew) : Prop where
  results : ∀ item ∈ crew.log.results, ∃ outcome, supply item.1 outcome ∧ item.2 = outcome.result
  settled : ∀ (worker attempt : Nat) (result : Except Error Connection),
    crew.stages[worker]? = some (.settled attempt result) →
    ∃ outcome, supply attempt outcome ∧ result = outcome.result

theorem conforms_change (change : Change observer supply action crew crew')
    (h : crew.Conforms supply) : crew'.Conforms supply := by
  refine ⟨fun item member => ?_, fun other attempt result here => ?_⟩
  · obtain ⟨here, shift⟩ := change
    cases shift with
    | @record worker attempt result =>
      have : item ∈ crew.log.results ∨ item = (attempt, result) := by simpa using member
      rcases this with old | new
      · exact h.results item old
      · rw [new]
        exact h.settled worker attempt result here
    | start | take | stop | begin | finish | tell | die | abandon | leave =>
      exact h.results item (by simpa using member)
  · by_cases same : other = action.worker
    · rw [same] at here
      obtain ⟨old, shared, -, shift, -⟩ := change.acted here
      cases shift with
      | finish supplied => exact ⟨_, supplied, rfl⟩
    · rw [change.stages_of_ne same] at here
      exact h.settled other attempt result here

theorem conforms_reached (h : Reached observer supply (request.crew observer) crew) :
    crew.Conforms supply := by
  refine reached_invariant (Conforms supply) conforms_change h ⟨?_, ?_⟩
  · rw [Log.results, view_crew ofWork_finished?]
    intro item member
    cases member
  · intro worker attempt result here
    cases Request.fresh_of_crew here

/-- A worker that stopped has found the queue empty. -/
def StopsLast (crew : Crew) : Prop :=
  ∀ worker : Nat, crew.stages[worker]? = some (.ended .stopped) → crew.queue.attempts = []

theorem stopsLast_change (change : Change observer supply action crew crew')
    (h : crew.StopsLast) : crew'.StopsLast := by
  intro other here
  by_cases before : crew.stages[other]? = some (.ended .stopped)
  · have empty := h other before
    obtain ⟨-, shift⟩ := change
    cases shift with
    | take taken =>
      rw [empty] at taken
      cases taken
    | record => rwa [queue_setStage, queue_record]
    | start | stop | begin | finish | tell | die | abandon | leave => exact empty
  · by_cases same : other = action.worker
    · rw [same] at here
      obtain ⟨old, shared, -, shift, rfl⟩ := change.acted here
      cases shift with
      | stop empty => exact empty
    · rw [change.stages_of_ne same] at here
      exact absurd here before

theorem stopsLast_reached (h : Reached observer supply (request.crew observer) crew) :
    crew.StopsLast := by
  refine reached_invariant StopsLast stopsLast_change h fun worker here => ?_
  cases Request.fresh_of_crew here

theorem neverRun_change (change : Change observer supply action crew crew') :
    crew'.log.neverRun = crew.log.neverRun := by
  obtain ⟨-, shift⟩ := change
  cases shift with
  | start | take | stop | begin | finish | record | tell | die | abandon | leave => simp

theorem neverRun_reached (h : Reached observer supply (request.crew observer) crew) :
    crew.log.neverRun = [] := by
  refine reached_invariant (·.log.neverRun = [])
    (fun change ih => (neverRun_change change).trans ih) h ?_
  rw [Log.neverRun, view_crew ofWork_neverRun?]

/-- A crew whose workers have all come to the end of the queue. -/
structure Done (request : Request) (observer : Observer) (supply : Supply) (crew : Crew) :
    Prop where
  valid : request.invalid? = none
  reached : Reached observer supply (request.crew observer) crew
  allOver : crew.isOver = true
  unharmed : crew.mishaps = []

theorem Done.stopped (h : Done request observer supply crew) {worker : Nat} {stage : Stage}
    (here : crew.stages[worker]? = some stage) : stage = .ended .stopped := by
  have ended := isOver_iff.1 h.allOver worker stage here
  have harmless := List.filterMap_eq_nil_iff.1 h.unharmed (stage, worker) (by
    rw [List.mk_mem_zipIdx_iff_getElem?, Array.getElem?_toList, here])
  cases stage with
  | ended ending =>
    cases ending with
    | stopped => rfl
    | panicked | cancelled => cases harmless
  | fresh | idle | assigned | waiting | settled | recorded => cases ended

theorem size_reached (h : Reached observer supply (request.crew observer) crew) :
    crew.stages.size = request.effectiveWorkers.toNat := by
  refine reached_invariant (·.stages.size = request.effectiveWorkers.toNat)
    (fun change ih => change.size_stages.trans ih) h ?_
  simp [Request.crew, ofCounts]

theorem Done.queue (h : Done request observer supply crew) : crew.queue.attempts = [] := by
  have first : 0 < crew.stages.size := by
    rw [size_reached h.reached]
    exact Request.workers_pos h.valid
  have here : crew.stages[0]? = some crew.stages[0] := Array.getElem?_eq_getElem first
  rw [h.stopped here] at here
  exact stopsLast_reached h.reached 0 here

theorem abandoned_of_uncancelled (h : Reached observer supply (request.crew observer) crew)
    (uncancelled : ∀ worker : Nat, crew.stages[worker]? ≠ some (.ended .cancelled)) :
    crew.log.abandoned = [] := by
  have none : crew.log.view Happening.loss? = [] :=
    List.eq_nil_iff_forall_not_mem.2 fun loss member =>
      uncancelled loss.1 (loss_reached h loss member)
  rw [abandoned_eq, none]
  rfl

/-- A crew whose workers have all ended, and have brought to a result so many attempts as they had
taken from the queue. -/
structure Spent (request : Request) (observer : Observer) (supply : Supply) (taken : Nat)
    (crew : Crew) : Prop where
  reached : Reached observer supply (request.crew observer) crew
  allOver : crew.isOver = true
  bound : taken ≤ request.target.toNat
  queue : crew.queue.attempts = List.range' taken (request.target.toNat - taken)
  abandoned : crew.log.abandoned = []

theorem Done.spent (h : Done request observer supply crew) :
    Spent request observer supply request.target.toNat crew where
  reached := h.reached
  allOver := h.allOver
  bound := Nat.le_refl _
  queue := by rw [h.queue, Nat.sub_self, List.range'_zero]
  abandoned := abandoned_of_uncancelled h.reached fun _ here => by cases h.stopped here

variable {taken : Nat}

theorem Spent.attempts_perm (h : Spent request observer supply taken crew) :
    (crew.log.results.map (·.1)).Perm (List.range taken) := by
  refine List.perm_iff_count.2 fun attempt => ?_
  have places := (whereabouts_reached h.reached).count_eq attempt
  have results := count_results crew.log attempt
  rw [count_whereabouts, h.queue, h.abandoned, gather_of_isOver h.allOver fun _ => rfl,
    range_eq_append h.bound, List.count_append] at places
  rw [neverRun_reached h.reached] at results
  simp only [List.count_nil] at places results
  omega

theorem Spent.results_perm (h : Spent request observer (request.supplies outcomes) taken crew) :
    crew.log.results.Perm ((List.range taken).map fun attempt =>
      (attempt, (outcomes attempt).result)) := by
  have same : crew.log.results =
      (crew.log.results.map (·.1)).map fun attempt => (attempt, (outcomes attempt).result) := by
    rw [List.map_map]
    refine (List.map_id _).symm.trans (List.map_congr_left fun item member => ?_)
    obtain ⟨outcome, supplied, result⟩ := (conforms_reached h.reached).results item member
    have known := List.mem_range.1 (h.attempts_perm.mem_iff.1 (List.mem_map_of_mem member))
    rw [Function.comp, ← supplied (Nat.lt_of_lt_of_le known h.bound), ← result]
    rfl
  rw [same]
  exact h.attempts_perm.map _

theorem Spent.began_perm (h : Spent request observer supply taken crew) :
    crew.log.began.Perm (List.range taken) := by
  -- No attempt is begun twice, and none has a result without having been begun.
  refine List.perm_iff_count.2 fun attempt => ?_
  have least := pursued_reached h.reached attempt
  have most := count_prospects_reached h.reached attempt
  have results := h.attempts_perm.count_eq attempt
  rw [range_eq_append h.bound] at most
  simp only [pursued, prospects, h.queue, List.count_append] at least most
  omega

theorem Spent.connections_perm
    (h : Spent request observer (request.supplies outcomes) taken crew) :
    (crew.log.established.map (·.connection)).Perm (connected outcomes taken) := by
  have same : crew.log.established.map (·.connection) =
      crew.log.results.filterMap fun result => result.2.toOption := by
    simp only [Log.established, Log.results, Log.view, List.map_filterMap, List.filterMap_filterMap]
    congr 1
    funext happening
    obtain _ | ⟨_, _, _ | _⟩ | _ | _ := happening <;> rfl
  rw [same]
  refine (h.results_perm.filterMap _).trans (.of_eq ?_)
  rw [connected, List.filterMap_map]
  congr 1
  funext attempt
  exact Outcome.toOption_result _

def missing (outcomes : Nat → Outcome) (taken target : Nat) : List Nat :=
  failing outcomes taken ++ List.range' taken (target - taken)

theorem length_connected_add_missing (outcomes : Nat → Outcome) {target : Nat}
    (bound : taken ≤ target) :
    (connected outcomes taken).length + (missing outcomes taken target).length = target := by
  have total := length_connected_add_failing outcomes taken
  rw [missing, List.length_append, List.length_range']
  omega

theorem missing_self (outcomes : Nat → Outcome) (target : Nat) :
    missing outcomes target target = failing outcomes target := by
  rw [missing, Nat.sub_self, List.range'_zero, List.append_nil]

theorem Spent.length_established
    (h : Spent request observer (request.supplies outcomes) taken crew) :
    crew.log.established.length = (connected outcomes taken).length := by
  rw [← h.connections_perm.length_eq, List.length_map]

theorem Spent.kept_settle (h : Spent request observer (request.supplies outcomes) taken crew)
    (pool : Pool) :
    (crew.settle request observer pool).1.firstFailure.kept.isSome = true ↔
      missing outcomes taken request.target.toNat ≠ [] := by
  have kept := (faithful_joined (faithful_reached h.reached) observer).firstFailure
  have total := length_joined h.reached h.allOver
  have connections := length_connected_add_missing outcomes h.bound
  have abandoned : (crew.joined observer).log.abandoned = [] := by
    have same := h.abandoned
    rw [Log.abandoned] at same
    rw [Log.abandoned, view_joined observer crew ofWork_abandoned?.untraced, same]
    simp
  rw [abandoned, ← Array.length_toList, (faithful_reached h.reached).arrivals,
    h.length_established] at total
  have same : (crew.settle request observer pool).1.firstFailure.kept =
      (crew.joined observer).log.failures.head? := kept
  have length : (crew.joined observer).log.failures.length =
      (missing outcomes taken request.target.toNat).length := by
    rw [List.length_nil] at total
    omega
  rw [same, ← List.length_pos_iff, ← length, List.length_pos_iff]
  cases (crew.joined observer).log.failures <;> simp

theorem Spent.began_settle (h : Spent request observer supply taken crew) (pool : Pool) :
    (crew.settle request observer pool).1.log.began.Perm (List.range taken) := by
  rw [Log.began, view_settle_of_none ofWork_began? fun _ => rfl]
  exact h.began_perm

theorem Spent.calls_settle (h : Spent request observer supply taken crew) (pool : Pool) :
    (crew.settle request observer pool).1.calls = taken := by
  rw [settle_eq]
  show (crew.joined observer).calls = _
  rw [calls_joined, (faithful_reached h.reached).calls, h.began_perm.length_eq, List.length_range]

end Crew

def Conclusion.isReturn : Conclusion → Bool
  | succeeded _ | failed _ => true
  | panicked _ | cancelled => false

theorem Course.returned {request : Request} {connections : List Established}
    {kept : Option Failure} {calls : List PoolCall} {notices : List Notice} {ended : Conclusion}
    (course : Course request connections kept calls notices ended)
    (returned : ended.isReturn = true) :
    (request.failFast = true ∧ kept.isSome = true) ∧
        (∃ failure, ended = .failed ⟨.warmupFailed failure⟩) ∧
        calls = connections.map Established.close ∨
      ¬ (request.failFast = true ∧ kept.isSome = true) ∧
        ended = .succeeded ⟨.ofNat connections.length,
          request.target - .ofNat connections.length, kept⟩ ∧
        calls = connections.map Established.accept := by
  cases course with
  | closing | accepting => cases returned
  | failed strict failed concludes =>
    rcases concludes with rfl | ⟨payload, rfl⟩
    · exact .inl ⟨⟨strict, by rw [failed]; rfl⟩, ⟨_, rfl⟩, rfl⟩
    · cases returned
  | succeeded lenient concludes =>
    rcases concludes with rfl | ⟨payload, rfl⟩
    · refine .inr ⟨?_, rfl, rfl⟩
      rintro ⟨strict, offered⟩
      rw [lenient strict] at offered
      cases offered
    · cases returned

inductive Conclusion.Alike : Conclusion → Conclusion → Prop
  | failed {first second : Failure} :
    Alike (.failed ⟨.warmupFailed first⟩) (.failed ⟨.warmupFailed second⟩)
  | succeeded {established failed : UInt32} {first second : Option Failure}
      (same : first.isSome = second.isSome) :
    Alike (.succeeded ⟨established, failed, first⟩) (.succeeded ⟨established, failed, second⟩)

namespace Run

/-- What the outcomes of the attempts decide about a warm-up. -/
structure Verdict (target : Nat) (failFast : Bool) (outcomes : Nat → Outcome) (run : Run) :
    Prop where
  began : run.crew.log.began.Perm (List.range target)
  calls : run.crew.calls = target
  failed : failFast = true ∧ failing outcomes target ≠ [] →
    (∃ failure, run.conclusion = some (.failed ⟨.warmupFailed failure⟩)) ∧
      run.crew.log.poolCalls.Perm ((connected outcomes target).map .close)
  succeeded : ¬ (failFast = true ∧ failing outcomes target ≠ []) →
    (∃ summary, run.conclusion = some (.succeeded summary) ∧
        summary.established.toNat = (connected outcomes target).length ∧
        summary.failed.toNat = (failing outcomes target).length ∧
        (summary.firstFailure.isSome = true ↔ 0 < summary.failed.toNat)) ∧
      run.crew.log.poolCalls.Perm ((connected outcomes target).map .accept)

/-- A run of the request to its return, in which attempts come to the given outcomes and nothing
happens to the workers. -/
structure Completes (request : Request) (outcomes : Nat → Outcome) (run : Run) : Prop where
  valid : request.invalid? = none
  played : ∃ level plan pool steps, run = (play request level plan pool steps).1 ∧
    plan.Within (request.supplies outcomes) ∧
    ∀ step ∈ steps, step.Within (request.supplies outcomes)
  returned : run.conclusion.any Conclusion.isReturn = true
  unharmed : run.crew.mishaps = []

open Crew

variable {request : Request} {observer : Observer} {plan : Plan} {supply : Supply}
  {pool after : Pool} {crew : Crew} {conclusion : Option Conclusion} {outcomes : Nat → Outcome}

theorem Phase.settled_of_return
    (phase : Phase request observer plan supply pool crew after conclusion)
    (valid : request.invalid? = none) {ended : Conclusion} (concludes : conclusion = some ended)
    (returned : ended.isReturn = true) :
    ∃ worked, Paused request observer plan supply worked ∧ worked.isOver = true ∧
      crew = (worked.settle request observer pool).1 ∧
      ended = (worked.settle request observer pool).2.2 := by
  cases phase with
  | rejected invalid => cases valid.symm.trans invalid
  | refused | dropped =>
    cases concludes
    cases returned
  | running => cases concludes
  | @settled worked begins paused allOver =>
    exact ⟨worked, paused, allOver, rfl, (Option.some.inj concludes).symm⟩

/-- What decides on the end of a warm-up: the connections that it has come to, and the attempts that
have come to none. -/
structure Decided (failFast : Bool) (connections : List Connection) (others : List Nat)
    (run : Run) : Prop where
  failed : failFast = true ∧ others ≠ [] →
    (∃ failure, run.conclusion = some (.failed ⟨.warmupFailed failure⟩)) ∧
      run.crew.log.poolCalls.Perm (connections.map .close)
  succeeded : ¬ (failFast = true ∧ others ≠ []) →
    (∃ summary, run.conclusion = some (.succeeded summary) ∧
        summary.established.toNat = connections.length ∧
        summary.failed.toNat = others.length ∧
        (summary.firstFailure.isSome = true ↔ 0 < summary.failed.toNat)) ∧
      run.crew.log.poolCalls.Perm (connections.map .accept)

theorem decided_of_spent {run : Run} {taken : Nat}
    (spent : Spent request observer (request.supplies outcomes) taken crew)
    (settled : run.crew = (crew.settle request observer pool).1)
    (concludes : run.conclusion = some (crew.settle request observer pool).2.2)
    (returned : (crew.settle request observer pool).2.2.isReturn = true) :
    Decided request.failFast (connected outcomes taken)
      (missing outcomes taken request.target.toNat) run := by
  have connections := spent.connections_perm
  have total := length_connected_add_missing outcomes spent.bound
  have arrived := spent.length_established
  have bound : crew.log.established.length ≤ request.target.toNat := by omega
  have fails := spent.kept_settle pool
  obtain ⟨notices, course, -⟩ := settle_course request observer crew pool
    (faithful_reached spent.reached)
  rcases course.returned returned with
    ⟨chosen, ⟨failure, failed⟩, closes⟩ | ⟨chosen, succeeded, accepts⟩
  · refine ⟨fun _ => ⟨⟨failure, failed ▸ concludes⟩, ?_⟩, ?_⟩
    · rw [settled, closes]
      have := connections.map PoolCall.close
      rwa [List.map_map] at this
    · rw [← fails]
      exact fun other => absurd chosen other
  · refine ⟨?_, fun _ => ⟨⟨_, succeeded ▸ concludes, ?_, ?_, ?_⟩, ?_⟩⟩
    · rw [← fails]
      exact fun other => absurd other chosen
    · rw [toNat_ofNat_of_le bound]
      exact arrived
    · rw [toNat_sub_ofNat bound]
      omega
    · rw [toNat_sub_ofNat bound, fails, ← List.length_pos_iff]
      omega
    · rw [settled, accepts]
      have := connections.map PoolCall.accept
      rwa [List.map_map] at this

/-- If all attempts were taken, the outcomes decide. -/
theorem verdict_of_spent {run : Run}
    (spent : Spent request observer (request.supplies outcomes) request.target.toNat crew)
    (settled : run.crew = (crew.settle request observer pool).1)
    (concludes : run.conclusion = some (crew.settle request observer pool).2.2)
    (returned : (crew.settle request observer pool).2.2.isReturn = true) :
    Verdict request.target.toNat request.failFast outcomes run := by
  have decided := decided_of_spent spent settled concludes returned
  rw [missing_self] at decided
  refine ⟨?_, ?_, decided.failed, decided.succeeded⟩
  · rw [settled]
    exact spent.began_settle pool
  · rw [settled]
    exact spent.calls_settle pool

theorem verdict_of_completes {run : Run} (h : Completes request outcomes run) :
    Verdict request.target.toNat request.failFast outcomes run := by
  obtain ⟨level, plan, pool, steps, played, within, supplied⟩ := h.played
  obtain ⟨ended, concludes, returned⟩ := (Option.any_eq_true _ _).1 h.returned
  have inPhase : InPhase request (.ofRequest request level) plan (request.supplies outcomes) pool
      run := played ▸ inPhase_play_within request level pool within steps supplied
  have unharmed := h.unharmed
  obtain ⟨worked, paused, allOver, settled, rfl⟩ :=
    inPhase.phase.settled_of_return h.valid concludes returned
  rw [settled, mishaps, stages_settle] at unharmed
  have done : Done request (.ofRequest request level) (request.supplies outcomes) worked :=
    ⟨h.valid, paused.reached, allOver, unharmed⟩
  exact verdict_of_spent done.spent settled concludes returned

theorem alike_of_verdict {target : UInt32} {failFast : Bool} {run run' : Run}
    (first : Verdict target.toNat failFast outcomes run)
    (second : Verdict target.toNat failFast outcomes run') :
    ∃ ended ended', run.conclusion = some ended ∧ run'.conclusion = some ended' ∧
      ended.Alike ended' := by
  by_cases fails : failFast = true ∧ failing outcomes target.toNat ≠ []
  · obtain ⟨⟨failure, ends⟩, -⟩ := first.failed fails
    obtain ⟨⟨failure', ends'⟩, -⟩ := second.failed fails
    exact ⟨_, _, ends, ends', .failed⟩
  · obtain ⟨⟨⟨established, failed, kept⟩, ends, connections, others, offered⟩, -⟩ :=
      first.succeeded fails
    obtain ⟨⟨⟨established', failed', kept'⟩, ends', connections', others', offered'⟩, -⟩ :=
      second.succeeded fails
    cases UInt32.toNat.inj (connections.trans connections'.symm)
    cases UInt32.toNat.inj (others.trans others'.symm)
    exact ⟨_, _, ends, ends', .succeeded (Bool.eq_iff_iff.2 (offered.trans offered'.symm))⟩

theorem poolCalls_of_verdict {target : Nat} {failFast : Bool} {run run' : Run}
    (first : Verdict target failFast outcomes run)
    (second : Verdict target failFast outcomes run') :
    run.crew.log.poolCalls.Perm run'.crew.log.poolCalls := by
  by_cases fails : failFast = true ∧ failing outcomes target ≠ []
  · exact (first.failed fails).2.trans (second.failed fails).2.symm
  · exact (first.succeeded fails).2.trans (second.succeeded fails).2.symm

/-- Two warm-ups for the same number of connections that agree on the meaning of a failure come to
the same if their attempts do, whatever else tells them apart. -/
theorem schedule_independent {request request' : Request} {run run' : Run}
    (target : request'.target = request.target) (failFast : request'.failFast = request.failFast)
    (first : Completes request outcomes run) (second : Completes request' outcomes run') :
    Verdict request.target.toNat request.failFast outcomes run ∧
      Verdict request.target.toNat request.failFast outcomes run' ∧
      run.crew.calls = run'.crew.calls ∧
      (∃ ended ended', run.conclusion = some ended ∧ run'.conclusion = some ended' ∧
        ended.Alike ended') ∧
      run.crew.log.poolCalls.Perm run'.crew.log.poolCalls := by
  have verdict := verdict_of_completes first
  have verdict' := verdict_of_completes second
  rw [target, failFast] at verdict'
  exact ⟨verdict, verdict', verdict.calls.trans verdict'.calls.symm,
    alike_of_verdict verdict verdict', poolCalls_of_verdict verdict verdict'⟩

def mixed (attempt : Nat) : Outcome :=
  if attempt = 1 then .fail ⟨.establishment "refused"⟩ else .ok "connected"

/-- One worker that never waits, and three whose attempts are finished from the last. -/
theorem schedule_independent_mixed :
    let run := (play ⟨3, 1, true, none, none⟩ none (fun attempt => some (mixed attempt)) .fresh
      []).1
    let run' := (play ⟨3, 3, true, none, none⟩ none (fun _ => none) .fresh
      [.finish [(2, mixed 2)], .finishAll mixed]).1
    run.crew.log.began = [0, 1, 2] ∧ run'.crew.log.results.map (·.1) = [2, 0, 1] ∧
      run.crew.calls = run'.crew.calls ∧
      run.crew.log.poolCalls.Perm run'.crew.log.poolCalls := by
  intro run run'
  have first : Completes ⟨3, 1, true, none, none⟩ mixed run := by
    refine ⟨by decide +kernel, ⟨_, _, _, _, rfl, ?_, by simp⟩, by decide +kernel, by decide +kernel⟩
    intro attempt outcome planned _
    exact (Option.some.inj planned).symm
  have flying : (play ⟨3, 3, true, none, none⟩ none (fun _ => none) .fresh
      [.finish [(2, mixed 2)]]).1.crew.inFlight = [0, 1] :=
    Crew.inFlight_of_ascending (by decide +kernel) (by decide)
  have same : run' = (play ⟨3, 3, true, none, none⟩ none (fun _ => none) .fresh
      [.finish [(2, mixed 2)], .finish [(0, mixed 0), (1, mixed 1)]]).1 := by
    simp only [play, steps] at flying
    simp only [run', play, steps, step_finishAll flying, List.map]
  have second : Completes ⟨3, 3, true, none, none⟩ mixed run' := by
    refine ⟨by decide +kernel, ⟨_, _, _, _, rfl, by simp [Plan.Within], ?_⟩,
      by rw [same]; decide +kernel, by rw [same]; decide +kernel⟩
    intro step member
    rcases List.mem_cons.1 member with rfl | member
    · intro item member
      rw [List.mem_singleton.1 member]
      exact fun _ => rfl
    · rw [List.mem_singleton.1 member]
      exact fun _ _ => rfl
  obtain ⟨-, -, calls, -, poolCalls⟩ :=
    schedule_independent (by rfl) (by rfl) first second
  exact ⟨by decide +kernel, by rw [same]; decide +kernel, calls, poolCalls⟩

end Run

end Preconnect
