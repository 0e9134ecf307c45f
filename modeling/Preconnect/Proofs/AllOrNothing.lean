import Preconnect.Proofs.Conservation
import Preconnect.Proofs.Phase

/-!
The pool gets all connections or none. Its calls begin only when no worker is left, go through the
connections in the order of arrival, and stop early only with a panic.
-/
namespace Preconnect

/-- The pool was called for a first part of what has arrived, always to accept or always to close,
and for all of it if the warm-up has returned. -/
structure Dealt (request : Request) (pool : Pool) (crew : Crew) (after : Pool)
    (conclusion : Option Conclusion) : Prop where
  pool : after = pool.after crew.log.poolCalls
  once : (crew.log.established.map (·.attempt)).Nodup
  calls : ∃ taken, taken <+: crew.log.established ∧
    (crew.log.poolCalls = taken.map Established.accept ∨
      crew.log.poolCalls = taken.map Established.close ∧ request.failFast = true ∧
        crew.firstFailure.kept.isSome = true)
  succeeded : ∀ summary, conclusion = some (.succeeded summary) →
    crew.log.poolCalls = crew.log.established.map Established.accept
  failed : ∀ error, conclusion = some (.failed error) → error.isWarmupFailure = true →
    crew.log.poolCalls = crew.log.established.map Established.close

section
variable {request : Request} {connections : List Established} {kept : Option Failure}
  {calls : List PoolCall} {notices : List Notice} {conclusion : Conclusion}

theorem Course.part (course : Course request connections kept calls notices conclusion) :
    ∃ taken, taken <+: connections ∧
      (calls = taken.map Established.accept ∨
        calls = taken.map Established.close ∧ request.failFast = true ∧ kept.isSome = true) := by
  cases course with
  | closing strict failed part => exact ⟨_, part, .inr ⟨rfl, strict, by rw [failed]; rfl⟩⟩
  | failed strict failed => exact ⟨_, List.prefix_rfl, .inr ⟨rfl, strict, by rw [failed]; rfl⟩⟩
  | accepting lenient part => exact ⟨_, part, .inl rfl⟩
  | succeeded => exact ⟨_, List.prefix_rfl, .inl rfl⟩

theorem Course.accepts {summary : Summary}
    (course : Course request connections kept calls notices (.succeeded summary)) :
    calls = connections.map Established.accept := by
  rcases course with _ | ⟨-, -, impossible | ⟨_, impossible⟩⟩ | _ | _
  · cases impossible
  · cases impossible
  · rfl

theorem Course.closes {error : Error}
    (course : Course request connections kept calls notices (.failed error)) :
    calls = connections.map Established.close := by
  rcases course with _ | _ | _ | ⟨-, impossible | ⟨_, impossible⟩⟩
  · rfl
  · cases impossible
  · cases impossible

theorem Course.not_cancelled (course : Course request connections kept calls notices conclusion) :
    conclusion ≠ .cancelled := by
  rintro rfl
  rcases course with _ | ⟨-, -, impossible | ⟨_, impossible⟩⟩ | _ |
    ⟨-, impossible | ⟨_, impossible⟩⟩ <;> cases impossible

end

theorem isWarmupFailure_of_invalid {request : Request} {error : Error}
    (invalid : request.invalid? = some error) : error.isWarmupFailure = false := by
  obtain ⟨fault, -, rfl⟩ := Option.map_eq_some_iff.1 invalid
  rfl

variable {request : Request} {observer : Observer} {plan : Plan} {supply : Crew.Supply}
  {pool after : Pool} {crew : Crew} {conclusion : Option Conclusion}

theorem dealt_of_untouched (untouched : crew.log.poolCalls = [])
    (once : (crew.log.established.map (·.attempt)).Nodup)
    (unsettled : ∀ summary, conclusion ≠ some (.succeeded summary))
    (unfailed : ∀ error, conclusion = some (.failed error) → error.isWarmupFailure = false) :
    Dealt request pool crew pool conclusion where
  pool := by
    rw [untouched]
    rfl
  once := once
  calls := ⟨[], List.nil_prefix, .inl untouched⟩
  succeeded summary concludes := absurd concludes (unsettled summary)
  failed error concludes warmup := by cases (unfailed error concludes).symm.trans warmup

namespace Crew

theorem dealt_settle (h : Reached observer supply (request.crew observer) crew) (pool : Pool) :
    Dealt request pool (crew.settle request observer pool).1
      (crew.settle request observer pool).2.1 (some (crew.settle request observer pool).2.2) := by
  obtain ⟨notices, course, -, pools⟩ :=
    settle_course request observer crew pool (faithful_reached h)
  rw [← established_settle request observer crew pool] at course
  refine ⟨pools, ?_, course.part, ?_, ?_⟩
  · rw [established_settle]
    exact established_nodup h
  · intro summary concludes
    rw [Option.some.inj concludes] at course
    exact course.accepts
  · intro error concludes _
    rw [Option.some.inj concludes] at course
    exact course.closes

end Crew

namespace Run

open Crew

theorem Phase.dealt (phase : Phase request observer plan supply pool crew after conclusion) :
    Dealt request pool crew after conclusion := by
  cases phase with
  | rejected invalid =>
    refine dealt_of_untouched rfl .nil (by simp) fun error concludes => ?_
    cases concludes
    exact isWarmupFailure_of_invalid invalid
  | refused =>
    exact dealt_of_untouched (by simp [ofCounts]) (by simp [ofCounts]) (by simp) (by simp)
  | running begins paused =>
    exact dealt_of_untouched (faithful_reached paused.reached).untouched
      (established_nodup paused.reached) (by simp) (by simp)
  | @dropped crew begins paused =>
    refine dealt_of_untouched ?_ ?_ (by simp) (by simp)
    · exact (Log.poolCalls_drop _ _).trans (faithful_reached paused.reached).untouched
    · rw [Crew.dropped, Log.established, Log.view_drop ofWork_established?]
      exact established_nodup paused.reached
  | settled begins paused => exact dealt_settle paused.reached pool

theorem Phase.untouched (phase : Phase request observer plan supply pool crew after conclusion)
    (unsettled : crew.isOver = false ∨ request.invalid?.isSome = true ∨
      conclusion = some .cancelled ∨ (observer.panic? request.started).isSome = true) :
    crew.log.poolCalls = [] := by
  cases phase with
  | rejected => rfl
  | refused => simp [ofCounts]
  | running begins paused => exact (faithful_reached paused.reached).untouched
  | dropped begins paused =>
    exact (Log.poolCalls_drop _ _).trans (faithful_reached paused.reached).untouched
  | @settled crew begins paused allOver =>
    obtain ⟨notices, course, -⟩ :=
      settle_course request observer crew pool (faithful_reached paused.reached)
    rcases unsettled with alive | invalid | cancelled | panicked
    · rw [Crew.isOver, stages_settle] at alive
      cases alive.symm.trans allOver
    · rw [begins.valid] at invalid
      cases invalid
    · exact absurd (Option.some.inj cancelled) course.not_cancelled
    · rw [begins.returned] at panicked
      cases panicked

/-- Whatever comes of the attempts and whatever panics, no warm-up divides its connections between
accepting and closing, and none calls the pool while a worker is left, after it was turned away, or
after it was given up. The same holds when the workers take their steps in any other order. -/
theorem pool_all_or_nothing (request : Request) (level : Option Level) (plan : Plan) (pool : Pool)
    (steps : List Step) :
    let observer := Observer.ofRequest request level
    let run := (play request level plan pool steps).1
    Dealt request pool run.crew run.pool run.conclusion ∧
      (run.crew.isOver = false ∨ request.invalid?.isSome = true ∨
          run.conclusion = some .cancelled ∨ (observer.panic? request.started).isSome = true →
        run.crew.log.poolCalls = [] ∧ run.pool = pool) ∧
      (run.conclusion = none → run.crew.arrivals.held.toList = run.crew.log.established) ∧
      ∀ actions : List Action,
        let crew := (request.crew observer).run observer actions
        let settled := crew.settle request observer pool
        crew.log.poolCalls = [] ∧ crew.arrivals.held.toList = settled.1.log.established ∧
          Dealt request pool settled.1 settled.2.1 (some settled.2.2) := by
  intro observer run
  have inPhase : InPhase request observer plan anything pool run :=
    inPhase_play request level plan pool steps
  have dealt := inPhase.phase.dealt
  refine ⟨dealt, fun unsettled => ?_, fun ongoing => ?_, fun actions => ?_⟩
  · have untouched := inPhase.phase.untouched unsettled
    refine ⟨untouched, ?_⟩
    rw [dealt.pool, untouched]
    rfl
  · exact (faithful_reached (inPhase.phase.paused ongoing).2.2.reached).arrivals
  · intro crew settled
    have reached : Reached observer anything (request.crew observer) crew := reached_run _ actions
    have faithful := faithful_reached reached
    refine ⟨faithful.untouched, ?_, dealt_settle reached pool⟩
    exact faithful.arrivals.trans (established_settle request observer crew pool).symm

/-- Here the pool panics in its second call, and never sees the last connection. -/
example :
    (play ⟨4, 2, true, none, none⟩ none
      (fun attempt => some (if attempt = 1 then .fail ⟨.establishment "refused"⟩ else .ok "a"))
      (.recording 0 0 none (some 2)) []).1.crew.log.poolCalls = [.close "a", .close "a"] := by
  decide +kernel

end Run

end Preconnect
