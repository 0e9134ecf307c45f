import Preconnect.Proofs.Conservation
import Preconnect.Proofs.Phase

/-!
The order of the events of a warm-up, and what they add up to. The workers and the settlement tell
of their own doings only, and yet the whole is one story that agrees with what was done.
-/
namespace Preconnect

namespace Notice

def established? : Notice → Option Nat
  | established attempt => some attempt
  | _ => none

def attemptFailed? : Notice → Option Nat
  | attemptFailed attempt _ => some attempt
  | _ => none

def closed? : Notice → Option Nat
  | closed attempt => some attempt
  | _ => none

def settled? : Notice → Option Nat
  | established attempt | attemptFailed attempt _ => some attempt
  | _ => none

attribute [simp] established? attemptFailed? closed? settled?

end Notice

/-- How the notices of a warm-up may go on after those of the attempts. -/
inductive Closing (arrived : List Established) (lost : Nat) : List Notice → Prop
  | closing {told : List Established} (part : told <+: arrived) :
    Closing arrived lost (told.map Established.farewell)
  | failed {failure : Failure} {closed : UInt32} (all : closed.toNat = arrived.length) :
    Closing arrived lost (arrived.map Established.farewell ++ [.failed failure closed])
  | succeeded {established failed : UInt32} (connected : established.toNat = arrived.length)
      (others : failed.toNat = lost) :
    Closing arrived lost [.succeeded established failed]

section
variable {arrived : List Established} {lost : Nat} {tail : List Notice}

theorem filterMap_farewell (told : List Established) :
    (told.map Established.farewell).filterMap Notice.closed? = told.map (·.attempt) := by
  induction told with
  | nil => rfl
  | cons established rest ih => simpa [Established.farewell] using ih

theorem Closing.closed (closing : Closing arrived lost tail) :
    tail.filterMap Notice.closed? <+: arrived.map (·.attempt) := by
  cases closing with
  | closing part =>
    rw [filterMap_farewell]
    exact part.map _
  | failed =>
    rw [List.filterMap_append, filterMap_farewell]
    exact ⟨[], by simp⟩
  | succeeded => exact List.nil_prefix

theorem Closing.unsettled (closing : Closing arrived lost tail) :
    ∀ notice ∈ tail, notice.established? = none ∧ notice.settled? = none ∧
      notice.attemptFailed? = none := by
  intro notice member
  cases closing with
  | closing =>
    obtain ⟨established, -, rfl⟩ := List.mem_map.1 member
    exact ⟨rfl, rfl, rfl⟩
  | failed =>
    rcases List.mem_append.1 member with farewell | last
    · obtain ⟨established, -, rfl⟩ := List.mem_map.1 farewell
      exact ⟨rfl, rfl, rfl⟩
    · rw [List.mem_singleton.1 last]
      exact ⟨rfl, rfl, rfl⟩
  | succeeded =>
    rw [List.mem_singleton.1 member]
    exact ⟨rfl, rfl, rfl⟩

end

section
variable (log : Log)

theorem filterMap_settled_tidings (first : Notice) (unsettled : first.settled? = none) :
    (log.tidings first).filterMap Notice.settled? = log.results.map (·.1) := by
  rw [Log.tidings, List.filterMap_cons, unsettled]
  induction log.results with
  | nil => rfl
  | cons result rest ih => obtain ⟨attempt, _ | _⟩ := result <;> simpa [Notice.ofResult] using ih

theorem filterMap_established_tidings (first : Notice) (other : first.established? = none) :
    (log.tidings first).filterMap Notice.established? = log.established.map (·.attempt) := by
  rw [Log.tidings, List.filterMap_cons, other]
  simp only [Log.results, Log.established, Log.view]
  induction log.toList with
  | nil => rfl
  | cons happening rest ih =>
    obtain _ | ⟨_, _, _ | _⟩ | _ | _ := happening <;>
      simpa [List.filterMap_cons, Notice.ofResult] using ih

theorem filterMap_closed_tidings (first : Notice) (other : first.closed? = none) :
    (log.tidings first).filterMap Notice.closed? = [] := by
  rw [List.filterMap_eq_nil_iff]
  intro notice member
  rcases List.mem_cons.1 member with rfl | member
  · exact other
  · obtain ⟨⟨attempt, _ | _⟩, -, rfl⟩ := List.mem_map.1 member <;> rfl

theorem length_failures (first : Notice) (other : first.attemptFailed? = none) :
    log.failures.length =
      ((log.tidings first).filterMap Notice.attemptFailed?).length + log.neverRun.length := by
  rw [Log.tidings, List.filterMap_cons, other]
  simp only [Log.results, Log.failures, Log.neverRun, Log.view]
  induction log.toList with
  | nil => rfl
  | cons happening rest ih =>
    obtain _ | ⟨_, _, _ | _⟩ | _ | _ := happening <;>
      simp [List.filterMap_cons, Notice.ofResult] at ih ⊢ <;> omega

theorem protocol_of_closing {request : Request} {tail : List Notice}
    (closing : Closing log.established (log.failures.length + log.abandoned.length) tail) :
    let notices := log.tidings request.started ++ tail
    (∃ middle,
        notices = .started request.target (min request.target request.workers) request.failFast ::
            middle ++ tail ∧
          ∀ notice ∈ middle, notice.settled?.isSome = true) ∧
      notices.filterMap Notice.settled? = log.results.map (·.1) ∧
      notices.filterMap Notice.established? = log.established.map (·.attempt) ∧
      notices.filterMap Notice.closed? <+: log.established.map (·.attempt) ∧
      log.failures.length =
        (notices.filterMap Notice.attemptFailed?).length + log.neverRun.length := by
  intro notices
  have silent {find : Notice → Option Nat} (h : ∀ notice ∈ tail, find notice = none) :
      notices.filterMap find = (log.tidings request.started).filterMap find := by
    rw [List.filterMap_append, List.filterMap_eq_nil_iff.2 h, List.append_nil]
  refine ⟨⟨_, rfl, ?_⟩, ?_, ?_, ?_, ?_⟩
  · intro notice member
    obtain ⟨⟨attempt, _ | _⟩, -, rfl⟩ := List.mem_map.1 member <;> rfl
  · rw [silent fun notice member => (closing.unsettled notice member).2.1]
    exact filterMap_settled_tidings log _ rfl
  · rw [silent fun notice member => (closing.unsettled notice member).1]
    exact filterMap_established_tidings log _ rfl
  · rw [List.filterMap_append, filterMap_closed_tidings log _ rfl]
    exact closing.closed
  · rw [silent fun notice member => (closing.unsettled notice member).2.2]
    exact length_failures log _ rfl

end

variable {request : Request} {observer : Observer} {plan : Plan} {supply : Crew.Supply}
  {pool after : Pool} {crew : Crew} {conclusion : Option Conclusion}

/-- The numbers that a settlement tells are exact if no attempt is missing from them. -/
theorem Course.adds_up {connections : List Established} {kept : Option Failure}
    {calls : List PoolCall} {notices : List Notice} {ended : Conclusion} {lost : Nat}
    (course : Course request connections kept calls notices ended)
    (total : connections.length + lost = request.target.toNat) :
    Closing connections lost notices := by
  have bound : connections.length ≤ request.target.toNat := by omega
  cases course with
  | closing strict failed part part' => exact .closing (part'.trans part)
  | failed => exact .failed (Crew.toNat_ofNat_of_le bound)
  | accepting => exact .closing List.nil_prefix
  | succeeded =>
    refine .succeeded (Crew.toNat_ofNat_of_le bound) ?_
    rw [Crew.toNat_sub_ofNat bound]
    omega

namespace Crew

theorem total_settle (h : Reached observer supply (request.crew observer) crew)
    (allOver : crew.isOver = true) (pool : Pool) :
    let log := (crew.settle request observer pool).1.log
    log.established.length + (log.failures.length + log.abandoned.length) =
      request.target.toNat := by
  intro log
  rw [established_settle, ← (faithful_reached h).arrivals, Array.length_toList, Log.failures,
    Log.abandoned, view_settle ofWork_failure?, view_settle ofWork_abandoned?]
  exact length_joined h allOver

theorem tidings_settle (crew : Crew) (pool : Pool) (first : Notice) :
    (crew.settle request observer pool).1.log.tidings first = crew.log.tidings first := by
  rw [Log.tidings, Log.results,
    view_settle_of_none ofWork_finished? fun _ => rfl]
  rfl

end Crew

namespace Run

open Crew

/-- Every attempt that was begun is in flight, over and told, or lost with its worker. -/
theorem Phase.began (phase : Phase request observer plan supply pool crew after conclusion)
    {attempt : Nat} (began : attempt ∈ crew.log.began) :
    attempt ∈ crew.inFlight ∨ attempt ∈ crew.log.abandoned ∨
      attempt ∈ crew.log.results.map (·.1) := by
  obtain ⟨worked, reached, same, alive⟩ := phase.worked
  rw [Log.began, same ofWork_began? fun _ => rfl] at began
  rw [Log.abandoned, Log.results, same ofWork_abandoned? fun _ => rfl,
    same ofWork_finished? fun _ => rfl]
  exact (began_reached reached began).imp_left (alive attempt)

theorem Phase.results_nodup
    (phase : Phase request observer plan supply pool crew after conclusion) :
    (crew.log.results.map (·.1)).Nodup := by
  obtain ⟨worked, reached, same, -⟩ := phase.worked
  rw [Log.results, same ofWork_finished? fun _ => rfl]
  exact Crew.results_nodup reached

/-- What the observers of a valid warm-up are told after the results of the attempts is what its
settlement tells them, if it comes to one. -/
theorem Phase.story (phase : Phase request observer plan supply pool crew after conclusion)
    (valid : request.invalid? = none) :
    ∃ tail, crew.log.events = observer.told (crew.log.tidings request.started ++ tail) ∧
      (tail = [] ∧ (∀ ended, conclusion = some ended →
          ended = .cancelled ∨ ∃ payload, ended = .panicked payload) ∨
        ∃ ended, conclusion = some ended ∧
          Course request crew.log.established crew.firstFailure.kept crew.log.poolCalls tail
            ended ∧
          crew.log.established.length + (crew.log.failures.length + crew.log.abandoned.length) =
            request.target.toNat) := by
  cases phase with
  | rejected invalid =>
    rw [valid] at invalid
    cases invalid
  | refused => exact ⟨[], by simp [ofCounts, Log.tidings], .inl ⟨rfl, by simp⟩⟩
  | running begins paused =>
    refine ⟨[], ?_, .inl ⟨rfl, by simp⟩⟩
    simpa [Tells] using paused.told.tells
  | dropped begins paused =>
    refine ⟨[], ?_, .inl ⟨rfl, by simp⟩⟩
    have tells := paused.told.tells
    simpa [Tells, Crew.dropped, Log.tidings] using tells
  | @settled crew begins paused allOver =>
    obtain ⟨notices, course, events, -⟩ :=
      settle_course request observer crew pool (faithful_reached paused.reached)
    rw [← established_settle request observer crew pool] at course
    refine ⟨notices, ?_, .inr ⟨_, rfl, course, total_settle paused.reached allOver pool⟩⟩
    have tells := paused.told.tells
    rw [Tells, observer.told_nil, List.append_nil] at tells
    rw [events, tells, tidings_settle, observer.told_append]

theorem Phase.tells (phase : Phase request observer plan supply pool crew after conclusion)
    (valid : request.invalid? = none) :
    ∃ tail, crew.log.events = observer.told (crew.log.tidings request.started ++ tail) ∧
      Closing crew.log.established (crew.log.failures.length + crew.log.abandoned.length)
        tail := by
  obtain ⟨tail, events, ⟨rfl, -⟩ | ⟨ended, -, course, total⟩⟩ := phase.story valid
  · exact ⟨[], events, .closing List.nil_prefix⟩
  · exact ⟨tail, events, course.adds_up total⟩

theorem Phase.log_of_invalid
    (phase : Phase request observer plan supply pool crew after conclusion)
    (invalid : request.invalid? ≠ none) : crew.log = {} := by
  obtain ⟨error, refused⟩ := Option.ne_none_iff_exists'.1 invalid
  exact congrArg (·.1.log) (phase.of_invalid refused)

/-- The handler of a valid warm-up is told that it begins, then of the results of attempts, each
once and the connections in the order of arrival, and at last of what became of all. -/
theorem events_follow_protocol (request : Request) (handled : request.handler.isSome = true)
    (level : Option Level) (plan : Plan) (pool : Pool) (steps : List Step) :
    let run := (play request level plan pool steps).1
    let log := run.crew.log
    let notices := log.events.map (·.notice)
    (∀ event ∈ log.events, event.pool = request.poolName) ∧
      (request.invalid?.isSome = true → notices = []) ∧
      (request.invalid? = none → ∃ middle tail,
        notices = .started request.target (min request.target request.workers) request.failFast ::
            middle ++ tail ∧
          (∀ notice ∈ middle, notice.settled?.isSome = true) ∧
          Closing log.established
            ((notices.filterMap Notice.attemptFailed?).length + log.neverRun.length +
              log.abandoned.length) tail) ∧
      notices.filterMap Notice.established? = log.established.map (·.attempt) ∧
      notices.filterMap Notice.closed? <+: log.established.map (·.attempt) ∧
      notices.filterMap Notice.settled? = log.results.map (·.1) ∧
      (notices.filterMap Notice.settled?).Nodup ∧
      ∀ attempt ∈ log.began, attempt ∈ run.crew.inFlight ∨ attempt ∈ log.abandoned ∨
        attempt ∈ notices.filterMap Notice.settled? := by
  intro run log notices
  have inPhase : InPhase request (.ofRequest request level) plan anything pool run :=
    inPhase_play request level plan pool steps
  have wants : (Observer.ofRequest request level).wantsEvents = true := by
    simp [Observer.wantsEvents, Observer.ofRequest, handled]
  by_cases valid : request.invalid? = none
  · obtain ⟨tail, events, closing⟩ := inPhase.phase.tells valid
    have made : log.events = (log.tidings request.started ++ tail).map
        (Observer.ofRequest request level).event := by
      rw [show log.events = _ from events, Observer.told, if_pos wants]
    have told : notices = log.tidings request.started ++ tail := by
      show log.events.map (·.notice) = _
      rw [made, List.map_map]
      exact List.map_id _
    obtain ⟨⟨middle, shape, settled⟩, results, established, closed, failures⟩ :=
      protocol_of_closing log closing
    rw [← told] at shape results established closed failures
    refine ⟨?_, fun invalid => ?_, fun _ => ⟨middle, tail, shape, settled, ?_⟩, established, closed,
      results, ?_, ?_⟩
    · intro event member
      rw [made] at member
      obtain ⟨notice, -, rfl⟩ := List.mem_map.1 member
      rfl
    · rw [valid] at invalid
      cases invalid
    · rw [← failures]
      exact closing
    · rw [results]
      exact inPhase.phase.results_nodup
    · rw [results]
      exact fun attempt began => inPhase.phase.began began
  · have empty : log = {} := inPhase.phase.log_of_invalid valid
    have silent : notices = [] := by
      show log.events.map (·.notice) = []
      rw [empty]
      rfl
    rw [silent, empty]
    exact ⟨by simp, fun _ => rfl, fun valid' => absurd valid' valid, rfl, List.prefix_rfl, rfl,
      .nil, by simp⟩

def wary : Handler := .callback fun event =>
  if event.notice = .closed 2 then some (.text "enough") else none

/-- The story breaks off where the handler panics. -/
theorem events_follow_protocol_wary :
    let run := (play ⟨3, 2, true, none, some wary⟩ none
      (fun attempt => if attempt = 1 then some (.ok "a") else none) .fresh
      [.finish [(2, .ok "b"), (0, .fail ⟨.establishment "refused"⟩)]]).1
    let notices := run.crew.log.events.map (·.notice)
    notices = [.started 3 2 true, .established 1, .established 2,
        .attemptFailed 0 ⟨.establishment "refused"⟩, .closed 1, .closed 2] ∧
      notices.filterMap Notice.established? = run.crew.log.established.map (·.attempt) := by
  intro run notices
  obtain ⟨-, -, -, established, -⟩ := events_follow_protocol ⟨3, 2, true, none, some wary⟩ rfl
    none (fun attempt => if attempt = 1 then some (.ok "a") else none) .fresh
    [.finish [(2, .ok "b"), (0, .fail ⟨.establishment "refused"⟩)]]
  exact ⟨by decide +kernel, established⟩

end Run

end Preconnect
