import Preconnect.Proofs.AllOrNothing
import Preconnect.Proofs.EventProtocol
import Preconnect.Proofs.Growth
import Preconnect.Proofs.Schedule

/-!
The failure that is kept. It is that of the first attempt that came to a failure, as the attempt
left it, or else that of the lowest attempt that was never run. Once kept it stays, and it is the
one that the error, the summary and the last event of a warm-up report.
-/
namespace Preconnect

def Failure.ofResult? : Nat × Except Error Connection → Option Failure
  | (attempt, .error error) => some ⟨attempt, error⟩
  | (_, .ok _) => none

def Failure.ofNeverRun (attempt : Nat) : Failure := ⟨attempt, .neverRun⟩

def Notice.failure? : Notice → Option Failure
  | attemptFailed attempt error => some ⟨attempt, error⟩
  | _ => none

theorem Failure.failure?_error_ne (failure : Failure) : failure.error.failure? ≠ some failure := by
  obtain ⟨attempt, ⟨kind⟩⟩ := failure
  intro same
  cases kind with
  | warmupFailed inner =>
    have := congrArg sizeOf (Option.some.inj same)
    simp at this
    omega
  | invalidArgument | establishment | io | custom | panicked | internal => cases same

/-- What the plan and the steps provide for attempts that have to come to something. -/
def supplied (plan : Plan) (steps : List Step) : Crew.Supply := fun attempt outcome =>
  plan attempt = some outcome ∨
    (∃ items, .finish items ∈ steps ∧ (attempt, outcome) ∈ items) ∨
    ∃ outcomes, .finishAll outcomes ∈ steps ∧ outcome = outcomes attempt

theorem within_supplied (plan : Plan) (steps : List Step) :
    plan.Within (supplied plan steps) ∧ ∀ step ∈ steps, step.Within (supplied plan steps) := by
  refine ⟨fun _ _ planned => .inl planned, fun step member => ?_⟩
  cases step with
  | finish items => exact fun item among => .inr (.inl ⟨items, member, among⟩)
  | finishAll outcomes => exact fun attempt => .inr (.inr ⟨outcomes, member, rfl⟩)
  | wait | cancel | shutdown | receive | closeReceiver => trivial

theorem Log.failures_eq_of_neverRun {log : Log} (none : log.neverRun = []) :
    log.failures = log.results.filterMap Failure.ofResult? := by
  rw [Log.neverRun, Log.view, List.filterMap_eq_nil_iff] at none
  rw [Log.failures, Log.results, Log.view, Log.view, List.filterMap_filterMap]
  refine List.filterMap_congr fun happening member => ?_
  have run := none happening member
  obtain _ | ⟨_, _, _ | _⟩ | _ | _ := happening <;> first | rfl | cases run

section
variable {request : Request} {connections : List Established} {kept : Option Failure}
  {calls : List PoolCall} {notices : List Notice} {conclusion : Conclusion}

theorem Course.kept_of_mem (course : Course request connections kept calls notices conclusion)
    {failure : Failure} {closed : UInt32} (member : .failed failure closed ∈ notices) :
    kept = some failure := by
  have farewells {told : List Established}
      (among : Notice.failed failure closed ∈ told.map Established.farewell) : False := by
    obtain ⟨established, -, impossible⟩ := List.mem_map.1 among
    cases impossible
  cases course with
  | closing => exact (farewells member).elim
  | failed strict failed =>
    rcases List.mem_append.1 member with among | last
    · exact (farewells among).elim
    · cases List.mem_singleton.1 last
      exact failed
  | accepting => cases member
  | succeeded => cases List.mem_singleton.1 member

theorem Course.failure (course : Course request connections kept calls notices conclusion)
    {error : Error} (concludes : conclusion = .failed error) :
    ∃ failure closed, error = ⟨.warmupFailed failure⟩ ∧ kept = some failure ∧
      notices.getLast? = some (.failed failure closed) := by
  cases course with
  | failed strict failed ends =>
    rcases ends with rfl | ⟨payload, rfl⟩
    · cases concludes
      exact ⟨_, _, rfl, failed, List.getLast?_concat⟩
    · cases concludes
  | succeeded lenient ends =>
    rcases ends with rfl | ⟨payload, rfl⟩ <;> cases concludes
  | closing | accepting => cases concludes

theorem Course.summary (course : Course request connections kept calls notices conclusion)
    {summary : Summary} (concludes : conclusion = .succeeded summary) :
    summary = ⟨.ofNat connections.length, request.target - .ofNat connections.length, kept⟩ ∧
      (request.failFast = true → kept = none) := by
  cases course with
  | succeeded lenient ends =>
    rcases ends with rfl | ⟨payload, rfl⟩
    · cases concludes
      exact ⟨rfl, lenient⟩
    · cases concludes
  | failed strict failed ends =>
    rcases ends with rfl | ⟨payload, rfl⟩ <;> cases concludes
  | closing | accepting => cases concludes

end

namespace Crew

variable {request : Request} {observer : Observer} {supply : Supply} {plan : Plan}
  {action : Action} {origin crew crew' : Crew} {failure : Failure}

theorem kept_change (change : Change observer supply action crew crew')
    (kept : crew.firstFailure.kept = some failure) :
    crew'.firstFailure.kept = some failure := by
  obtain ⟨-, shift⟩ := change
  cases shift with
  | @record worker attempt result =>
    cases result with
    | ok connection => exact kept
    | error error => simp [record, FirstFailure.kept_offer, kept]
  | start | take | stop | begin | finish | tell | die | abandon | leave => exact kept

theorem kept_reached (h : Reached observer supply origin crew)
    (kept : origin.firstFailure.kept = some failure) : crew.firstFailure.kept = some failure :=
  reached_invariant (·.firstFailure.kept = some failure) kept_change h kept

theorem kept_settle (h : crew.Faithful) (request : Request) (observer : Observer) (pool : Pool) :
    let settled := (crew.settle request observer pool).1
    settled.firstFailure.kept = settled.log.failures.head? := by
  intro settled
  rw [Log.failures, view_settle ofWork_failure?]
  exact (faithful_joined h observer).firstFailure

theorem failures_settle (h : Reached observer supply (request.crew observer) crew) (pool : Pool) :
    (crew.settle request observer pool).1.log.failures =
      crew.log.results.filterMap Failure.ofResult? ++
        crew.queue.attempts.map Failure.ofNeverRun := by
  rw [Log.failures, view_settle ofWork_failure?,
    view_joined observer crew ofWork_failure?.untraced,
    ← Log.failures_eq_of_neverRun (neverRun_reached h), ← List.filterMap_eq_map]
  rfl

theorem neverRun_joined (h : Reached observer supply (request.crew observer) crew) :
    (crew.joined observer).log.neverRun = crew.queue.attempts := by
  have none := neverRun_reached h
  rw [Log.neverRun] at none
  rw [Log.neverRun, view_joined observer crew ofWork_neverRun?.untraced, none]
  simp

theorem neverRun_settle (h : Reached observer supply (request.crew observer) crew) (pool : Pool) :
    (crew.settle request observer pool).1.log.neverRun = crew.queue.attempts :=
  (view_settle ofWork_neverRun?).trans (neverRun_joined h)

theorem results_settle (request : Request) (observer : Observer) (crew : Crew) (pool : Pool) :
    (crew.settle request observer pool).1.log.results = crew.log.results :=
  view_settle_of_none ofWork_finished? fun _ => rfl

theorem view_dropped {α : Type} {find : Happening → Option α} (crew : Crew) (h : OfWork find) :
    crew.dropped.log.view find = crew.log.view find := Log.view_drop h _ _

end Crew

namespace Run

open Crew

variable {request : Request} {observer : Observer} {plan : Plan} {supply : Supply}
  {pool after : Pool} {crew : Crew} {conclusion : Option Conclusion}

theorem Phase.kept_eq_head (phase : Phase request observer plan supply pool crew after conclusion) :
    crew.firstFailure.kept = crew.log.failures.head? := by
  cases phase with
  | rejected => rfl
  | refused => simp [ofCounts]
  | running begins paused => exact (faithful_reached paused.reached).firstFailure
  | @dropped crew begins paused =>
    rw [Log.failures, view_dropped crew ofWork_failure?]
    exact (faithful_reached paused.reached).firstFailure
  | settled begins paused =>
    exact kept_settle (faithful_reached paused.reached) request observer pool

/-- The first failure among the results is kept, or else that of the first attempt given up. -/
theorem Phase.kept_eq (phase : Phase request observer plan supply pool crew after conclusion) :
    crew.firstFailure.kept = (crew.log.results.findSome? Failure.ofResult?).or
      (crew.log.neverRun.head?.map Failure.ofNeverRun) := by
  have worked {crew : Crew} (none : crew.log.neverRun = []) :
      crew.log.failures.head? = (crew.log.results.findSome? Failure.ofResult?).or
        (crew.log.neverRun.head?.map Failure.ofNeverRun) := by
    rw [Log.failures_eq_of_neverRun none, List.head?_filterMap, none]
    simp
  rw [phase.kept_eq_head]
  cases phase with
  | rejected => rfl
  | refused => exact worked (by simp [ofCounts])
  | running begins paused => exact worked (neverRun_reached paused.reached)
  | dropped begins paused =>
    refine worked ?_
    rw [Log.neverRun, view_dropped _ ofWork_neverRun?]
    exact neverRun_reached paused.reached
  | settled begins paused =>
    rw [failures_settle paused.reached, neverRun_settle paused.reached, results_settle,
      List.head?_append, List.head?_filterMap, List.head?_map]

theorem Phase.neverRun_eq (phase : Phase request observer plan supply pool crew after conclusion)
    (begins : request.Begins observer) {ended : Conclusion} (concludes : conclusion = some ended)
    (completed : ended ≠ .cancelled) :
    crew.log.neverRun =
      (List.range request.target.toNat).filter fun attempt => attempt ∉ crew.log.began := by
  cases phase with
  | rejected invalid => rw [begins.valid] at invalid; cases invalid
  | refused valid panicked => rw [begins.returned] at panicked; cases panicked
  | running => cases concludes
  | dropped => exact absurd (Option.some.inj concludes).symm completed
  | @settled crew _ paused =>
    have same : (crew.settle request observer pool).1.log.began = crew.log.began :=
      view_settle_of_none ofWork_began? fun _ => rfl
    rw [neverRun_settle paused.reached, same]
    exact queue_eq_of_begun (begun_of_rests paused.rests) (holdsLast_reached paused.reached)
      paused.prospects

theorem findSome?_tidings (log : Log) (first : Notice) (other : first.failure? = none) :
    (log.tidings first).findSome? Notice.failure? = log.results.findSome? Failure.ofResult? := by
  have same : (Notice.failure? ∘ fun result : Nat × Except Error Connection =>
      Notice.ofResult result.1 result.2) = Failure.ofResult? := by
    funext ⟨attempt, result⟩
    cases result <;> rfl
  rw [Log.tidings, List.findSome?_cons, other, List.findSome?_map, same]

theorem Phase.conforms (phase : Phase request observer plan supply pool crew after conclusion) :
    ∀ item ∈ crew.log.results, ∃ outcome, supply item.1 outcome ∧ item.2 = outcome.result := by
  obtain ⟨worked, reached, same, -⟩ := phase.worked
  rw [Log.results, same ofWork_finished? fun _ => rfl]
  exact (conforms_reached reached).results

theorem Phase.tells_failures
    (phase : Phase request observer plan supply pool crew after conclusion)
    (valid : request.invalid? = none) :
    ∃ notices, crew.log.events = observer.told notices ∧
      notices.findSome? Notice.failure? = crew.log.results.findSome? Failure.ofResult? ∧
      (∀ failure closed, .failed failure closed ∈ notices →
        crew.firstFailure.kept = some failure) ∧
      (∀ error, conclusion = some (.failed error) →
        ∃ failure closed, error = ⟨.warmupFailed failure⟩ ∧
          crew.firstFailure.kept = some failure ∧
          notices.getLast? = some (.failed failure closed)) ∧
      ∀ summary, conclusion = some (.succeeded summary) →
        summary.firstFailure = crew.firstFailure.kept := by
  obtain ⟨tail, events, story⟩ := phase.story valid
  have early : ∀ failure closed, .failed failure closed ∉ crew.log.tidings request.started := by
    intro failure closed member
    rcases List.mem_cons.1 member with impossible | among
    · cases impossible
    · obtain ⟨⟨attempt, _ | _⟩, -, impossible⟩ := List.mem_map.1 among <;> cases impossible
  refine ⟨_, events, ?_, ?_, ?_, ?_⟩
  · rw [List.findSome?_append, findSome?_tidings _ _ rfl]
    have silent : tail.findSome? Notice.failure? = none := by
      rw [List.findSome?_eq_none_iff]
      intro notice member
      rcases story with ⟨rfl, -⟩ | ⟨ended, -, course, total⟩
      · cases member
      · have unsettled := ((course.adds_up total).unsettled notice member).2.2
        cases notice with
        | attemptFailed => cases unsettled
        | started | established | closed | succeeded | failed => rfl
    rw [silent, Option.or_none]
  · intro failure closed member
    rcases List.mem_append.1 member with among | last
    · exact absurd among (early failure closed)
    · rcases story with ⟨rfl, -⟩ | ⟨ended, -, course, -⟩
      · cases last
      · exact course.kept_of_mem last
  · intro error concludes
    rcases story with ⟨-, unreturned⟩ | ⟨ended, ends, course, -⟩
    · rcases unreturned _ concludes with impossible | ⟨payload, impossible⟩ <;> cases impossible
    · cases Option.some.inj (ends.symm.trans concludes)
      obtain ⟨failure, closed, same, kept, last⟩ := course.failure rfl
      exact ⟨failure, closed, same, kept, by rw [List.getLast?_append, last, Option.some_or]⟩
  · intro summary concludes
    rcases story with ⟨-, unreturned⟩ | ⟨ended, ends, course, -⟩
    · rcases unreturned _ concludes with impossible | ⟨payload, impossible⟩ <;> cases impossible
    · cases Option.some.inj (ends.symm.trans concludes)
      rw [(course.summary rfl).1]

/-- All reports of a failure, whether the request was a valid one or not, are of the one that is
kept. -/
theorem Phase.reports (phase : Phase request observer plan supply pool crew after conclusion) :
    let notices := crew.log.events.map (·.notice)
    (observer.wantsEvents = true →
        notices.findSome? Notice.failure? = crew.log.results.findSome? Failure.ofResult?) ∧
      (∀ failure closed, .failed failure closed ∈ notices →
        crew.firstFailure.kept = some failure) ∧
      (∀ error, conclusion = some (.failed error) → error.isWarmupFailure = true →
        ∃ failure, error.failure? = some failure ∧ crew.firstFailure.kept = some failure ∧
          (observer.wantsEvents = true →
            ∃ closed, notices.getLast? = some (.failed failure closed))) ∧
      ∀ summary, conclusion = some (.succeeded summary) →
        summary.firstFailure = crew.firstFailure.kept := by
  intro notices
  by_cases valid : request.invalid? = none
  · obtain ⟨made, events, first, closing, failed, succeeded⟩ := phase.tells_failures valid
    have told : notices = if observer.wantsEvents then made else [] := by
      rw [← observer.notices_told, ← events]
    refine ⟨fun wants => ?_, fun failure closed member => ?_, fun error concludes _ => ?_,
      succeeded⟩
    · rw [told, if_pos wants, first]
    · rw [told] at member
      split at member
      · exact closing failure closed member
      · cases member
    · obtain ⟨failure, closed, rfl, keeps, last⟩ := failed error concludes
      exact ⟨failure, rfl, keeps, fun wants => ⟨closed, by rw [told, if_pos wants, last]⟩⟩
  · have empty : crew.log = {} := phase.log_of_invalid valid
    have silent : notices = [] := by
      show crew.log.events.map (·.notice) = []
      rw [empty]
      rfl
    rw [silent, empty]
    obtain ⟨refusal, invalid⟩ := Option.ne_none_iff_exists'.1 valid
    have concluded : conclusion = some (.failed refusal) :=
      congrArg (·.2.2) (phase.of_invalid invalid)
    refine ⟨fun _ => rfl, fun _ _ member => (by cases member), fun error concludes warmup => ?_,
      fun summary concludes => ?_⟩
    · cases concludes.symm.trans concluded
      cases (isWarmupFailure_of_invalid invalid).symm.trans warmup
    · cases concludes.symm.trans concluded

theorem kept_steps {request : Request} {level : Option Level} {plan : Plan} {pool : Pool}
    {steps : List Step} {failure : Failure}
    (kept : (play request level plan pool steps).1.crew.firstFailure.kept = some failure)
    (later : List Step) :
    (play request level plan pool (steps ++ later)).1.crew.firstFailure.kept = some failure := by
  rw [(inPhase_play request level plan pool _).phase.kept_eq_head] at kept ⊢
  rw [play_append]
  -- The failures in the log begin with those that were there before.
  obtain ⟨new, more⟩ := (grows_steps (play request level plan pool steps).1 later).view
    Happening.failure?
  rw [Log.failures, ← more, List.head?_append, kept, Option.some_or]

/-- One failure is kept, from when it came on: that of the first attempt that came to one, with the
error that the attempt came to, or else that of the lowest attempt that was never begun. All that is
reported of the failure of a warm-up is this one. -/
theorem first_failure_faithful (request : Request) (level : Option Level) (plan : Plan)
    (pool : Pool) (steps : List Step) :
    let observer := Observer.ofRequest request level
    let run := (play request level plan pool steps).1
    let log := run.crew.log
    let notices := log.events.map (·.notice)
    let kept := run.crew.firstFailure.kept
    (∀ failure, kept = some failure →
        (∀ later, (play request level plan pool (steps ++ later)).1.crew.firstFailure.kept =
          some failure) ∧
        failure.error.failure? ≠ some failure) ∧
      (∀ (actions later : List Action) (failure : Failure),
        ((request.crew observer).run observer actions).firstFailure.kept = some failure →
        ((request.crew observer).run observer (actions ++ later)).firstFailure.kept =
          some failure) ∧
      kept = (log.results.findSome? Failure.ofResult?).or
        (log.neverRun.head?.map Failure.ofNeverRun) ∧
      (∀ item ∈ log.results, ∃ outcome,
        supplied plan steps item.1 outcome ∧ item.2 = outcome.result) ∧
      (request.Begins observer → ∀ ended, run.conclusion = some ended → ended ≠ .cancelled →
        log.neverRun =
          (List.range request.target.toNat).filter fun attempt => attempt ∉ log.began) ∧
      (observer.wantsEvents = true →
        notices.findSome? Notice.failure? = log.results.findSome? Failure.ofResult?) ∧
      (∀ failure closed, .failed failure closed ∈ notices → kept = some failure) ∧
      (∀ error, run.conclusion = some (.failed error) → error.isWarmupFailure = true →
        ∃ failure, error.failure? = some failure ∧ kept = some failure ∧
          (observer.wantsEvents = true →
            ∃ closed, notices.getLast? = some (.failed failure closed))) ∧
      ∀ summary, run.conclusion = some (.succeeded summary) → summary.firstFailure = kept := by
  intro observer run log notices kept
  obtain ⟨planned, stepped⟩ := within_supplied plan steps
  have inPhase : InPhase request observer plan (supplied plan steps) pool run :=
    inPhase_play_within request level pool planned steps stepped
  have phase := inPhase.phase
  refine ⟨fun failure keeps => ⟨fun later => kept_steps keeps later, failure.failure?_error_ne⟩,
    fun actions later failure keeps => ?_, phase.kept_eq, phase.conforms,
    fun begins ended concludes completed => phase.neverRun_eq begins concludes completed,
    phase.reports⟩
  rw [Crew.run, List.foldl_append]
  exact kept_reached (reached_run _ later) keeps

/-- The error of the attempt wraps the failure of another warm-up, and is wrapped as it is. -/
example :
    let inner : Error := ⟨.warmupFailed ⟨9, ⟨.establishment "refused"⟩⟩⟩
    let others : List (Nat × Outcome) := [(0, .fail ⟨.internal .neverRun⟩), (2, .ok "c")]
    (play ⟨3, 2, true, none, none⟩ none (fun _ => none) .fresh
      [.finish [(1, .fail inner)], .finish others]).1.conclusion =
        some (.failed ⟨.warmupFailed ⟨1, inner⟩⟩) := by
  decide +kernel

end Run

end Preconnect
