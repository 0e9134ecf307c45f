import Preconnect.Proofs.KeptFailure
import Preconnect.Proofs.Labor
import Preconnect.Proofs.Matching
import Preconnect.Proofs.Threads

/-!
Races between threads. Whichever call is made for which attempt, every attempt has one call and the
calls are as many as the attempts. What a warm-up comes to is therefore decided by what its calls
come to, in whatever order they begin and end.
-/
namespace Preconnect

theorem map_idxOf_self {order : List Nat} (once : order.Nodup) :
    order.map order.idxOf = List.range order.length := by
  apply List.ext_getElem
  · simp
  · intro place first second
    have found := List.get_idxOf once ⟨place, by simpa using first⟩
    simpa using found

theorem map_idxOf_range {order : List Nat} {target : Nat}
    (all : order.Perm (List.range target)) :
    ((List.range target).map order.idxOf).Perm (List.range target) := by
  have places := all.symm.map order.idxOf
  rw [map_idxOf_self (all.nodup_iff.2 List.nodup_range), all.length_eq,
    List.length_range] at places
  exact places

@[simp] theorem Outcome.connection?_onThread (call : Outcome) :
    call.onThread.connection? = call.connection? := by
  rw [← Outcome.toOption_result, Outcome.result_onThread, Outcome.toOption_result]

theorem connected_ordered (outcomes : Nat → Outcome) {order : List Nat} {target : Nat}
    (all : order.Perm (List.range target)) :
    (connected (fun attempt => (outcomes (order.idxOf attempt)).onThread) target).Perm
      (connected outcomes target) := by
  have places := (map_idxOf_range all).filterMap fun call => (outcomes call).connection?
  rw [List.filterMap_map] at places
  simpa [connected, Function.comp_def] using places

theorem failing_ne_nil_iff (outcomes : Nat → Outcome) (target : Nat) :
    failing outcomes target ≠ [] ↔ (connected outcomes target).length < target := by
  have total := length_connected_add_failing outcomes target
  rw [← List.length_pos_iff]
  omega

namespace Run

/-- A verdict depends on the outcomes by the connections alone. -/
theorem Verdict.of_perm {target : Nat} {failFast : Bool} {outcomes outcomes' : Nat → Outcome}
    {run : Run} (same : (connected outcomes' target).Perm (connected outcomes target))
    (h : Verdict target failFast outcomes' run) : Verdict target failFast outcomes run := by
  have total := length_connected_add_failing outcomes target
  have total' := length_connected_add_failing outcomes' target
  have length := same.length_eq
  have fails : failing outcomes' target ≠ [] ↔ failing outcomes target ≠ [] := by
    rw [failing_ne_nil_iff, failing_ne_nil_iff, length]
  refine ⟨h.began, h.calls, fun strict => ?_, fun lenient => ?_⟩
  · rw [← fails] at strict
    obtain ⟨failed, closed⟩ := h.failed strict
    exact ⟨failed, closed.trans (same.map _)⟩
  · rw [← fails] at lenient
    obtain ⟨⟨summary, succeeded, established, failed, offered⟩, accepted⟩ := h.succeeded lenient
    refine ⟨⟨summary, succeeded, ?_, ?_, offered⟩, accepted.trans (same.map _)⟩ <;> omega

end Run

namespace Threads

open Crew

variable {observer : Observer} {supply : Supply} {outcomes : Nat → Outcome} {request : Request}
  {threads : Threads}

theorem Orderly.unharmed (h : Orderly request observer threads)
    (allOver : threads.crew.isOver = true)
    (returned : observer.panic? request.started = none)
    (harmless : threads.crew.log.Harmless observer.handler) : threads.crew.mishaps = [] := by
  obtain ⟨deaths, dead⟩ := deaths_reached returned h.reached
  have nobody : deaths = [] := by
    apply List.map_eq_nil_iff.1
    rw [dead.events, Log.panics, List.filter_eq_nil_iff]
    intro event member
    simp [harmless event member]
  unfold mishaps
  rw [List.filterMap_eq_nil_iff]
  rintro ⟨stage, worker⟩ member
  rw [List.mk_mem_zipIdx_iff_getElem?, Array.getElem?_toList] at member
  have ended := isOver_iff.1 allOver worker stage member
  cases stage with
  | ended ending =>
    cases ending with
    | stopped => rfl
    | panicked payload =>
      have among := dead.all worker payload member
      simp [nobody] at among
    | cancelled => exact absurd member (h.uncancelled worker)
  | fresh | idle | assigned | waiting | settled | recorded => cases ended

theorem Orderly.calls_perm (h : Orderly request observer threads)
    (done : Done request observer (ordered outcomes threads.calls) threads.crew) :
    threads.calls.Perm (List.range request.target.toNat) := by
  rw [List.perm_ext_iff_of_nodup h.once List.nodup_range]
  intro attempt
  rw [List.mem_range]
  constructor
  · exact h.bound attempt
  · intro known
    have result : attempt ∈ threads.crew.log.results.map (·.1) := by
      rw [done.spent.attempts_perm.mem_iff]
      exact List.mem_range.2 known
    obtain ⟨item, member, rfl⟩ := List.mem_map.1 result
    obtain ⟨outcome, ⟨called, -⟩, -⟩ := (conforms_reached done.reached).results item member
    exact called

theorem kept_of_calls {pool : Pool} {failure : Failure}
    (done : Done request observer (ordered outcomes threads.calls) threads.crew)
    (kept : (threads.crew.settle request observer pool).1.firstFailure.kept = some failure) :
    ∃ call < threads.calls.length, (outcomes call).result = .error failure.error := by
  rw [kept_settle (faithful_reached done.reached), failures_settle done.reached, done.queue,
    List.map_nil, List.append_nil] at kept
  obtain ⟨⟨attempt, result⟩, member, found⟩ := List.mem_filterMap.1 (List.mem_of_head? kept)
  obtain ⟨outcome, ⟨called, rfl⟩, same⟩ := (conforms_reached done.reached).results _ member
  refine ⟨threads.calls.idxOf attempt, List.idxOf_lt_length_of_mem called, ?_⟩
  rw [← Outcome.result_onThread, ← same]
  cases result with
  | ok connection => cases found
  | error error =>
    cases found
    rfl

end Threads

def Conclusion.failure? : Conclusion → Option Failure
  | failed error => error.failure?
  | succeeded summary => summary.firstFailure
  | panicked _ | cancelled => none

theorem Course.kept_of_conclusion {request : Request} {connections : List Established}
    {kept : Option Failure} {calls : List PoolCall} {notices : List Notice} {ended : Conclusion}
    (course : Course request connections kept calls notices ended) {failure : Failure}
    (tells : ended.failure? = some failure) : kept = some failure := by
  cases ended with
  | failed error =>
    obtain ⟨first, _, rfl, keeps, -⟩ := course.failure rfl
    rw [keeps]
    exact tells
  | succeeded summary =>
    obtain ⟨rfl, -⟩ := course.summary rfl
    exact tells
  | panicked | cancelled => cases tells

namespace Run

open Crew

/-- A blocking warm-up whose workers and threads go on as scheduled. It concludes once no worker is
left. -/
def raced (request : Request) (level : Option Level) (outcomes : Nat → Outcome) (pool : Pool)
    (schedule : List Nat) : Run :=
  let run := ofRequest request level (fun _ => none) pool
  let threads := (Threads.ofRequest request run.observer).race run.observer outcomes schedule
  settle { run with crew := threads.crew }

variable {request : Request} {level : Option Level} {outcomes : Nat → Outcome} {pool : Pool}
  {schedule : List Nat}

theorem hasResultOf_raced (request : Request) (level : Option Level) (outcomes : Nat → Outcome)
    (pool : Pool) (schedule : List Nat) :
    HasResultOf request (.ofRequest request level) (fun _ => none) pool
      { crew := ((Threads.ofRequest request (.ofRequest request level)).race
        (.ofRequest request level) outcomes schedule).crew }
      (raced request level outcomes pool schedule) := hasResultOf_settle _ _

/-- The request is a valid one, and nothing panics but attempts. -/
structure Unhindered (request : Request) (pool : Pool) (run : Run) : Prop where
  valid : request.invalid? = none
  harmless : run.crew.log.Harmless request.handler
  takes : pool.takes run.crew.log.poolCalls = true

theorem raced_concludes (level : Option Level) (outcomes : Nat → Outcome) (pool : Pool)
    (fair : Threads.Fair request schedule) :
    (raced request level outcomes pool schedule).conclusion.isSome = true := by
  apply ((hasResultOf_raced request level outcomes pool schedule).hasEnded ?_).concluded
  exact Threads.isOver_of_fair _ outcomes fair

theorem done_raced {threads : Threads}
    (ends : (Threads.ofRequest request (.ofRequest request level)).race
      (.ofRequest request level) outcomes schedule = threads)
    (concluded : (raced request level outcomes pool schedule).conclusion.isSome = true)
    (h : Unhindered request pool (raced request level outcomes pool schedule)) :
    Done request (.ofRequest request level) (Threads.ordered outcomes threads.calls)
      threads.crew := by
  have orderly := Threads.orderly_race request (.ofRequest request level) outcomes schedule
  have hasResult := hasResultOf_raced request level outcomes pool schedule
  have reached := Threads.reached_race (.ofRequest request level) outcomes
    (.ofRequest request (.ofRequest request level)) schedule List.prefix_rfl
  rw [ends] at orderly hasResult reached
  have allOver := hasResult.isOver concluded
  have harmless := h.harmless
  rw [(hasResult.settled allOver rfl).1] at harmless
  have worked := harmless.earlier (grows_settle request (.ofRequest request level) _ pool)
  have returned : (Observer.ofRequest request level).panic? request.started = none := by
    apply Log.Harmless.returned
    exact worked.earlier (grows_reached orderly.reached)
  exact ⟨h.valid, reached, allOver, orderly.unharmed allOver returned worked⟩

/-- Whoever races with whom, the calls are as many as the attempts and decide what comes of them. -/
theorem verdict_raced {threads : Threads}
    (ends : (Threads.ofRequest request (.ofRequest request level)).race
      (.ofRequest request level) outcomes schedule = threads)
    (concluded : (raced request level outcomes pool schedule).conclusion.isSome = true)
    (h : Unhindered request pool (raced request level outcomes pool schedule)) :
    let run := raced request level outcomes pool schedule
    Verdict request.target.toNat request.failFast outcomes run ∧
      threads.calls.Perm (List.range request.target.toNat) ∧
      ∀ failure, run.conclusion.bind Conclusion.failure? = some failure →
        ∃ call < request.target.toNat, (outcomes call).result = .error failure.error := by
  have done := done_raced ends concluded h
  have orderly := Threads.orderly_race request (.ofRequest request level) outcomes schedule
  have hasResult := hasResultOf_raced request level outcomes pool schedule
  rw [ends] at orderly hasResult
  have all := orderly.calls_perm done
  have faithful := faithful_reached done.reached
  obtain ⟨settled, concludes⟩ := hasResult.settled done.allOver rfl
  obtain ⟨-, harmless, takes⟩ := h
  rw [settled] at harmless takes
  have returns := (settle_returns faithful fun event member _ => harmless event member).2 takes
  have supplied : Done request (.ofRequest request level) (request.supplies fun attempt =>
      (outcomes (threads.calls.idxOf attempt)).onThread) threads.crew :=
    ⟨done.valid, done.reached.mono fun _ _ supplied _ => supplied.2, done.allOver, done.unharmed⟩
  have verdict := verdict_of_spent supplied.spent settled concludes returns
  refine ⟨verdict.of_perm (connected_ordered outcomes all), all, fun failure tells => ?_⟩
  rw [concludes] at tells
  obtain ⟨notices, course, -⟩ := settle_course request (.ofRequest request level) threads.crew pool
    faithful
  have failed := Threads.kept_of_calls done (course.kept_of_conclusion tells)
  rwa [all.length_eq, List.length_range] at failed

end Run

end Preconnect
