import Preconnect.Proofs.Unread

/-!
The policy for failures acts late. Whether a failure fails the warm-up is known from the start, but
until the last worker has ended nothing depends on it, except for what the observers are told of it.
-/
namespace Preconnect

/-- The handler answers alike to the news that a warm-up begins, whatever a failure means in it. -/
def Handler.Impartial (handler : Handler) : Prop :=
  ∀ pool target workers,
    handler.panic? ⟨pool, .started target workers true⟩ =
      handler.panic? ⟨pool, .started target workers false⟩

/-- Rules are about names and attempts, so that a handler that panics by rules is impartial. -/
theorem Handler.impartial_of_rules (rules : List PanicRule) (panicsLater : Event → Bool) :
    Impartial (.callback (PanicRule.first? rules)) ∧
      Impartial (.asyncCallback (PanicRule.first? rules) panicsLater) :=
  ⟨fun _ _ _ => rfl, fun _ _ _ => rfl⟩

namespace Log

def work (log : Log) : List Happening := log.toList.filter Happening.isWork

theorem view_eq_work {α : Type} {find : Happening → Option α} (h : OfWork find) (log : Log) :
    log.view find = log.work.filterMap find := by
  rw [view, work, List.filterMap_filter]
  refine List.filterMap_congr fun happening _ => ?_
  cases works : happening.isWork with
  | true => rfl
  | false => exact h happening works

theorem work_eq_view (log : Log) : log.work = log.view (Option.guard (Happening.isWork ·)) :=
  congrFun List.filterMap_eq_filter.symm log.toList

theorem ofWork_guard : OfWork (Option.guard (Happening.isWork ·)) := by
  intro happening other
  rw [Option.guard, other]
  rfl

def attemptEvents (log : Log) : List Event :=
  log.events.filter fun event => event.notice.settled?.isSome

end Log

theorem Observer.filter_told (observer : Observer) (keep : Notice → Bool) (notices : List Notice) :
    (observer.told notices).filter (fun event => keep event.notice) =
      observer.told (notices.filter keep) := by
  unfold told
  split
  · rw [List.filter_map]
    rfl
  · rfl

section
variable {request : Request} {connections : List Established} {kept : Option Failure}
  {calls : List PoolCall} {notices : List Notice} {conclusion : Conclusion}

theorem Course.fails (course : Course request connections kept calls notices conclusion)
    (strict : request.failFast = true) {failure : Failure} (failed : kept = some failure)
    (returned : conclusion.isReturn = true) :
    conclusion = .failed ⟨.warmupFailed failure⟩ ∧ calls = connections.map Established.close ∧
      notices.getLast? = some (.failed failure (.ofNat connections.length)) := by
  cases course with
  | closing | accepting => cases returned
  | failed _ failed' concludes =>
    cases failed.symm.trans failed'
    rcases concludes with rfl | ⟨payload, rfl⟩
    · exact ⟨rfl, rfl, List.getLast?_concat⟩
    · cases returned
  | succeeded lenient => cases failed.symm.trans (lenient strict)

theorem Course.succeeds (course : Course request connections kept calls notices conclusion)
    (lenient : request.failFast = false) (returned : conclusion.isReturn = true) :
    conclusion = .succeeded ⟨.ofNat connections.length,
        request.target - .ofNat connections.length, kept⟩ ∧
      calls = connections.map Established.accept ∧
      notices.getLast? = some (.succeeded (.ofNat connections.length)
        (request.target - .ofNat connections.length)) := by
  cases course with
  | closing strict | failed strict => cases lenient.symm.trans strict
  | accepting => cases returned
  | succeeded _ concludes =>
    rcases concludes with rfl | ⟨payload, rfl⟩
    · exact ⟨rfl, rfl, rfl⟩
    · cases returned

end

def Request.announcement (request : Request) (observer : Observer) : Log :=
  if request.invalid?.isSome then {} else observer.emit {} request.started

theorem Request.view_announcement {α : Type} {find : Happening → Option α} (h : OfWork find)
    (request : Request) (observer : Observer) :
    (request.announcement observer).view find = [] := by
  unfold announcement
  split
  · rfl
  · exact (observer.view_emit h {} request.started).trans Log.view_empty

theorem Request.announcement_of_valid {request : Request} (valid : request.invalid? = none)
    (observer : Observer) :
    request.announcement observer = observer.emit {} request.started := by
  rw [announcement, valid]
  rfl

namespace Crew

structure Agrees (crew crew' : Crew) : Prop where
  stages : crew'.stages = crew.stages
  calls : crew'.calls = crew.calls
  firstFailure : crew'.firstFailure = crew.firstFailure
  work : crew'.log.work = crew.log.work

variable {request : Request} {observer : Observer} {crew crew' : Crew} {before before' : Log}

theorem Agrees.view {α : Type} {find : Happening → Option α} (agrees : crew.Agrees crew')
    (h : OfWork find) : crew'.log.view find = crew.log.view find := by
  rw [Log.view_eq_work h, Log.view_eq_work h, agrees.work]

theorem agrees_after (crew : Crew) (silent : before.work = []) (silent' : before'.work = []) :
    (crew.after before).Agrees (crew.after before') := by
  refine ⟨rfl, rfl, rfl, ?_⟩
  rw [Log.work_eq_view] at silent silent' ⊢
  rw [Log.work_eq_view, after, after, Log.view_after, Log.view_after, silent, silent']

theorem agrees_settle {lenient : Request} (agrees : (crew.joined observer).Agrees
    (crew'.joined observer)) (pool : Pool) :
    (crew.settle request observer pool).1.Agrees (crew'.settle lenient observer pool).1 := by
  refine ⟨?_, agrees.calls, agrees.firstFailure, ?_⟩
  · rw [stages_settle, stages_settle, ← stages_joined observer crew', agrees.stages, stages_joined]
  · rw [Log.work_eq_view, Log.work_eq_view, view_settle Log.ofWork_guard,
      view_settle Log.ofWork_guard]
    exact agrees.view Log.ofWork_guard

theorem settle_of_unfailed (request : Request) (observer : Observer) (crew : Crew) (pool : Pool)
    (unfailed : (crew.joined observer).firstFailure.kept = none) (failFast : Bool) :
    crew.settle { request with failFast } observer pool = crew.settle request observer pool := by
  rw [settle_eq, settle_eq, ending_of_lenient fun _ => unfailed,
    ending_of_lenient fun _ => unfailed]

end Crew

namespace Run

open Crew

variable {request : Request} {observer : Observer} {plan : Plan} {supply : Supply}
  {pool after : Pool} {crew : Crew} {conclusion : Option Conclusion} {before before' : Log}
  {labor : Labor} {run run' : Run}

theorem Phase.attemptEvents
    (phase : Phase request observer plan supply pool crew after conclusion) :
    crew.log.attemptEvents =
      observer.told (crew.log.results.map fun result => .ofResult result.1 result.2) := by
  by_cases valid : request.invalid? = none
  · obtain ⟨tail, events, closing⟩ := phase.tells valid
    have settled : (crew.log.results.map fun result => Notice.ofResult result.1 result.2).filter
        (fun notice => notice.settled?.isSome) =
        crew.log.results.map fun result => Notice.ofResult result.1 result.2 := by
      rw [List.filter_eq_self]
      intro notice member
      obtain ⟨⟨attempt, _ | _⟩, -, rfl⟩ := List.mem_map.1 member <;> rfl
    have unsettled : tail.filter (fun notice => notice.settled?.isSome) = [] := by
      rw [List.filter_eq_nil_iff]
      intro notice member
      rw [(closing.unsettled notice member).2.1]
      exact Bool.false_ne_true
    rw [Log.attemptEvents, events,
      observer.filter_told (fun notice => notice.settled?.isSome), List.filter_append, unsettled,
      List.append_nil, Log.tidings, List.filter_cons_of_neg Bool.false_ne_true, settled]
  · rw [phase.log_of_invalid valid]
    exact (observer.told_nil).symm

/-- Two runs have come to the same, each behind its own beginning, as far as failures do not
count. -/
structure SameUnlessFailed (before before' : Log) (shown shown' : Crew × Pool × Option Conclusion) :
    Prop where
  crews : shown.1.Agrees shown'.1
  concluded : shown'.2.2.isSome = shown.2.2.isSome
  unfailed : shown.1.firstFailure.kept = none ∨ shown.2.2 = none ∨
      shown.2.2 = some .cancelled →
    shown'.2 = shown.2 ∧
      ∃ rest : Log, shown.1.log = rest.after before ∧ shown'.1.log = rest.after before'

theorem sameUnlessFailed_settle (crew : Crew) (silent : before.work = [])
    (silent' : before'.work = []) :
    let settled := (crew.after before).settle { request with failFast := true } observer pool
    let settled' := (crew.after before').settle { request with failFast := false } observer pool
    SameUnlessFailed before before' (settled.1, settled.2.1, some settled.2.2)
      (settled'.1, settled'.2.1, some settled'.2.2) := by
  intro settled settled'
  have agrees : ((crew.after before).joined observer).Agrees
      ((crew.after before').joined observer) := by
    rw [joined_after, joined_after]
    exact agrees_after _ silent silent'
  have crews : settled.1.Agrees settled'.1 := agrees_settle agrees pool
  refine ⟨crews, rfl, fun unfailed => ?_⟩
  -- A settlement never gives a warm-up up, so that only the first of the three cases is left.
  have kept : (crew.joined observer).firstFailure.kept = none := by
    rcases unfailed with none | impossible | cancelled
    · have same : settled.1.firstFailure = (crew.joined observer).firstFailure := by
        show ((crew.after before).joined observer).firstFailure = _
        rw [joined_after]
        rfl
      rwa [← same]
    · cases impossible
    · obtain ⟨calls, notices, course, -⟩ :=
        ending_course { request with failFast := true } observer (crew.after before) pool
      exact absurd (Option.some.inj cancelled) course.not_cancelled
  have strict : settled = ((crew.settle request observer pool).1.after before,
      (crew.settle request observer pool).2) := by
    rw [← settle_of_unfailed request observer crew pool kept true]
    exact settle_after _ observer crew before pool
  have lenient : settled' = ((crew.settle request observer pool).1.after before',
      (crew.settle request observer pool).2) := by
    rw [← settle_of_unfailed request observer crew pool kept false]
    exact settle_after _ observer crew before' pool
  rw [strict, lenient]
  exact ⟨rfl, _, rfl, rfl⟩

theorem sameUnlessFailed_result (labor : Labor) (silent : before.work = [])
    (silent' : before'.work = []) :
    SameUnlessFailed before before'
      ((labor.after before).result { request with failFast := true } observer pool)
      ((labor.after before').result { request with failFast := false } observer pool) := by
  cases allOver : labor.crew.isOver with
  | false =>
    rw [(labor.after before).result_of_alive allOver,
      (labor.after before').result_of_alive allOver]
    exact ⟨agrees_after labor.crew silent silent', rfl, fun _ => ⟨rfl, labor.crew.log, rfl, rfl⟩⟩
  | true =>
    cases givenUp : labor.givenUp with
    | true =>
      rw [(labor.after before).result_of_givenUp allOver givenUp,
        (labor.after before').result_of_givenUp allOver givenUp]
      simp only [Labor.after, dropped_after]
      exact ⟨agrees_after labor.crew.dropped silent silent', rfl,
        fun _ => ⟨rfl, labor.crew.dropped.log, rfl, rfl⟩⟩
    | false =>
      rw [(labor.after before).result_of_done allOver givenUp,
        (labor.after before').result_of_done allOver givenUp]
      exact sameUnlessFailed_settle labor.crew silent silent'

/-- Two warm-ups of which only one takes failures seriously do the same under the same decisions, up
to the end of their last worker. -/
theorem sameUnlessFailed_play (request : Request)
    (impartial : ∀ handler, request.handler = some handler → handler.Impartial)
    (level : Option Level) (plan : Plan) (pool : Pool) (steps : List Step) :
    let strict := { request with failFast := true }
    let lenient := { request with failFast := false }
    let observer := Observer.ofRequest request level
    let run := (play strict level plan pool steps).1
    let run' := (play lenient level plan pool steps).1
    SameUnlessFailed (strict.announcement observer) (lenient.announcement observer)
      (run.crew, run.pool, run.conclusion) (run'.crew, run'.pool, run'.conclusion) := by
  intro strict lenient observer run run'
  have silent (request : Request) : (request.announcement observer).work = [] := by
    rw [Log.work_eq_view, request.view_announcement Log.ofWork_guard]
  have inPhase : InPhase strict observer plan anything pool run :=
    inPhase_play strict level plan pool steps
  have inPhase' : InPhase lenient observer plan anything pool run' :=
    inPhase_play lenient level plan pool steps
  cases valid : request.invalid? with
  | some error =>
    have invalid : strict.invalid? = some error := valid
    have invalid' : lenient.invalid? = some error := valid
    rw [inPhase.phase.of_invalid invalid, inPhase'.phase.of_invalid invalid', Request.announcement,
      Request.announcement, invalid, invalid']
    exact ⟨⟨rfl, rfl, rfl, rfl⟩, rfl, fun _ => ⟨rfl, {}, rfl, rfl⟩⟩
  | none =>
    have valid₁ : strict.invalid? = none := valid
    have valid₂ : lenient.invalid? = none := valid
    have same : observer.panic? lenient.started = observer.panic? strict.started := by
      show request.handler.bind _ = request.handler.bind _
      cases handled : request.handler with
      | none => rfl
      | some handler =>
        exact (impartial handler handled request.poolName request.target
          request.effectiveWorkers).symm
    cases panics : observer.panic? strict.started with
    | some payload =>
      rw [inPhase.phase.of_panic valid₁ panics, inPhase'.phase.of_panic valid₂ (same.trans panics),
        ofCounts_after 0 0 (observer.emit {} strict.started),
        ofCounts_after 0 0 (observer.emit {} lenient.started),
        ← Request.announcement_of_valid valid₁, ← Request.announcement_of_valid valid₂]
      exact ⟨agrees_after _ (silent strict) (silent lenient), rfl,
        fun _ => ⟨rfl, {}, rfl, rfl⟩⟩
    | none =>
      have hasResult := hasResultOf_play (⟨valid, panics⟩ : strict.Begins observer) plan pool steps
      have hasResult' :=
        hasResultOf_play (⟨valid, same.trans panics⟩ : lenient.Begins observer) plan pool
        steps
      have result := hasResult.result
      have result' := hasResult'.result
      rw [Request.crew, ofCounts_after, labor_after, ← Request.announcement_of_valid valid₁]
        at result
      rw [Request.crew, ofCounts_after, labor_after, ← Request.announcement_of_valid valid₂]
        at result'
      rw [result, result']
      exact sameUnlessFailed_result _ (silent strict) (silent lenient)

theorem Phase.course (phase : Phase request observer plan supply pool crew after conclusion)
    (valid : request.invalid? = none) {ended : Conclusion} (concludes : conclusion = some ended)
    (returned : ended.isReturn = true) :
    ∃ tail, crew.log.events = observer.told (crew.log.tidings request.started ++ tail) ∧
      Course request crew.log.established crew.firstFailure.kept crew.log.poolCalls tail ended := by
  obtain ⟨tail, events, ⟨-, unreturned⟩ | ⟨ended', concludes', course, -⟩⟩ := phase.story valid
  · rcases unreturned ended concludes with rfl | ⟨payload, rfl⟩ <;> cases returned
  · cases concludes.symm.trans concludes'
    exact ⟨tail, events, course⟩

theorem Phase.valid_of_kept (phase : Phase request observer plan supply pool crew after conclusion)
    {failure : Failure} (kept : crew.firstFailure.kept = some failure) :
    request.invalid? = none := by
  cases phase with
  | rejected => cases kept
  | refused valid => exact valid
  | running begins | dropped begins | settled begins => exact begins.valid

theorem getLast?_told {notices : List Notice} {last : Notice} (observer : Observer)
    (wants : observer.wantsEvents = true) (ends : notices.getLast? = some last)
    (earlier : List Notice) :
    (observer.told (earlier ++ notices)).getLast? = some (observer.event last) := by
  rw [Observer.told, if_pos wants, List.getLast?_map, List.getLast?_append, ends]
  rfl

/-- A failure counts in the first of two warm-ups only. It closes what the other accepts, and both
report that failure and the same number of connections. -/
structure Contrary (observer : Observer) (failure : Failure) (run run' : Run) : Prop where
  failed : run.conclusion = some (.failed ⟨.warmupFailed failure⟩)
  closes : run.crew.log.poolCalls = run.crew.log.established.map Established.close
  accepts : run'.crew.log.poolCalls = run.crew.log.established.map Established.accept
  succeeded : ∃ summary, run'.conclusion = some (.succeeded summary) ∧
    summary.firstFailure = some failure ∧
    (observer.wantsEvents = true →
      run.crew.log.events.getLast? =
          some (observer.event (.failed failure summary.established)) ∧
        run'.crew.log.events.getLast? =
          some (observer.event (.succeeded summary.established summary.failed)))

theorem contrary_of_kept {lenient : Request} {failure : Failure}
    (inPhase : InPhase request observer plan supply pool run)
    (inPhase' : InPhase lenient observer plan supply pool run')
    (counts : request.failFast = true) (passes : lenient.failFast = false)
    (crews : run.crew.Agrees run'.crew) (kept : run.crew.firstFailure.kept = some failure)
    (returned : run.conclusion.any Conclusion.isReturn = true)
    (returned' : run'.conclusion.any Conclusion.isReturn = true) :
    Contrary observer failure run run' := by
  have same : run'.crew.log.established = run.crew.log.established :=
    crews.view ofWork_established?
  have kept' : run'.crew.firstFailure.kept = some failure := by rw [crews.firstFailure, kept]
  obtain ⟨ended, concludes, returns⟩ := (Option.any_eq_true _ _).1 returned
  obtain ⟨ended', concludes', returns'⟩ := (Option.any_eq_true _ _).1 returned'
  obtain ⟨tail, events, course⟩ :=
    inPhase.phase.course (inPhase.phase.valid_of_kept kept) concludes returns
  obtain ⟨tail', events', course'⟩ :=
    inPhase'.phase.course (inPhase'.phase.valid_of_kept kept') concludes' returns'
  obtain ⟨rfl, closes, last⟩ := course.fails counts kept returns
  obtain ⟨rfl, accepts, last'⟩ := course'.succeeds passes returns'
  rw [same] at accepts last' concludes'
  refine ⟨concludes, closes, accepts, _, concludes', kept', fun wants => ⟨?_, ?_⟩⟩
  · rw [events]
    exact getLast?_told observer wants last _
  · rw [events']
    exact getLast?_told observer wants last' _

/-- What a failure means is of no account before the last worker has ended. Up to then two warm-ups
that disagree about it do the same, with the same workers in the same order, record the same results
and the same first failure and tell of them in the same events, and without a failure they also come
to the same end. With one the strict warm-up closes what the lenient one accepts, and they report
the same failure and the same number of connections, if both return. -/
theorem policy_acts_late (request : Request)
    (impartial : ∀ handler, request.handler = some handler → handler.Impartial)
    (level : Option Level) (plan : Plan) (pool : Pool) (steps : List Step) :
    let strict := { request with failFast := true }
    let lenient := { request with failFast := false }
    let observer := Observer.ofRequest request level
    let run := (play strict level plan pool steps).1
    let run' := (play lenient level plan pool steps).1
    run.crew.Agrees run'.crew ∧ run'.crew.log.established = run.crew.log.established ∧
      run'.crew.log.attemptEvents = run.crew.log.attemptEvents ∧
      run'.conclusion.isSome = run.conclusion.isSome ∧
      (run.crew.firstFailure.kept = none ∨ run.conclusion = none ∨
          run.conclusion = some .cancelled →
        run'.conclusion = run.conclusion ∧ run'.pool = run.pool ∧
          ∃ rest : Log, run.crew.log = rest.after (strict.announcement observer) ∧
            run'.crew.log = rest.after (lenient.announcement observer)) ∧
      (∀ failure, run.crew.firstFailure.kept = some failure →
        run.conclusion.any Conclusion.isReturn = true →
        run'.conclusion.any Conclusion.isReturn = true → Contrary observer failure run run') ∧
      ∀ actions, ∃ crew : Crew,
        (strict.crew observer).run observer actions = crew.after (observer.emit {} strict.started) ∧
          (lenient.crew observer).run observer actions =
            crew.after (observer.emit {} lenient.started) := by
  intro strict lenient observer run run'
  have inPhase : InPhase strict observer plan anything pool run :=
    inPhase_play strict level plan pool steps
  have inPhase' : InPhase lenient observer plan anything pool run' :=
    inPhase_play lenient level plan pool steps
  obtain ⟨crews, concluded, unfailed⟩ :=
    sameUnlessFailed_play request impartial level plan pool steps
  have results := crews.view ofWork_finished?
  refine ⟨crews, crews.view ofWork_established?, ?_, concluded, fun early => ?_,
    fun failure kept => contrary_of_kept inPhase inPhase' rfl rfl crews kept, fun actions => ?_⟩
  · rw [inPhase'.phase.attemptEvents, inPhase.phase.attemptEvents, Log.results, results]
  · obtain ⟨same, logs⟩ := unfailed early
    exact ⟨congrArg (·.2) same, congrArg (·.1) same, logs⟩
  · refine ⟨(Crew.ofCounts request.target.toNat request.effectiveWorkers.toNat {}).run observer
      actions, ?_, ?_⟩
    · rw [← run_after, ← ofCounts_after]
      rfl
    · rw [← run_after, ← ofCounts_after]
      rfl

/-- One of two workers ends with a panic of the handler, which has just heard of a failure. The
other goes on in either warm-up. -/
theorem policy_acts_late_bereft :
    let handler : Handler :=
      .callback (PanicRule.first? [⟨"ConnectionAttemptFailed", some 1, none⟩])
    let refused : Error := ⟨.establishment "refused"⟩
    let steps : List Step := [.finish [(1, .fail refused), (0, .ok "a")], .finish [(2, .ok "b")]]
    let run := (play ⟨3, 2, true, none, some handler⟩ none (fun _ => none) .fresh steps).1
    let run' := (play ⟨3, 2, false, none, some handler⟩ none (fun _ => none) .fresh steps).1
    run.crew.mishaps.length = 1 ∧ run'.crew.stages = run.crew.stages ∧
      run.crew.log.poolCalls = [.close "a", .close "b"] ∧
      run'.crew.log.poolCalls = [.accept "a", .accept "b"] ∧
      run.conclusion = some (.failed ⟨.warmupFailed ⟨1, refused⟩⟩) ∧
      run'.conclusion.any (fun ended => ended.isReturn) = true := by
  intro handler refused steps run run'
  have impartial : ∀ other, some handler = some other → other.Impartial := by
    rintro _ ⟨⟩
    exact (Handler.impartial_of_rules _ fun _ => false).1
  have returned' : run'.conclusion.any Conclusion.isReturn = true := by decide +kernel
  obtain ⟨crews, -, -, -, -, counts, -⟩ :=
    policy_acts_late ⟨3, 2, true, none, some handler⟩ impartial none (fun _ => none) .fresh steps
  obtain ⟨concludes, closes, accepts, -⟩ :=
    counts ⟨1, refused⟩ (by decide +kernel) (by decide +kernel) returned'
  have established : run.crew.log.established = [⟨0, "a"⟩, ⟨2, "b"⟩] := by decide +kernel
  refine ⟨by decide +kernel, crews.stages, closes.trans ?_, accepts.trans ?_, concludes, returned'⟩
  · exact congrArg (List.map Established.close) established
  · exact congrArg (List.map Established.accept) established

end Run

end Preconnect
