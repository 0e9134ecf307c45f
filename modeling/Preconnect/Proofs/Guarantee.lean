import Preconnect.Proofs.KeptFailure

/-!
What a summary promises: a failed attempt comes with a failure, and where one failure is one too
many there is none. A summary counts what is missing from the target, but reports what was recorded,
and an attempt that is lost with its worker is missing without ever being recorded. Such attempts
are all that the promise can break on.
-/
namespace Preconnect

/-- If attempts failed there is a failure to show for it, and none failed if none may fail. -/
def Summary.Guaranteed (failFast : Bool) (summary : Summary) : Prop :=
  (summary.failed ≠ 0 → summary.firstFailure.isSome = true) ∧
    (failFast = true → summary.failed = 0)

instance (failFast : Bool) (summary : Summary) : Decidable (summary.Guaranteed failFast) :=
  inferInstanceAs (Decidable (_ ∧ _))

structure Summary.Accounts (request : Request) (log : Log) (summary : Summary) : Prop where
  established : summary.established.toNat = log.established.length
  failed : summary.failed.toNat = log.failures.length + log.abandoned.length
  firstFailure : summary.firstFailure = log.failures.head?
  strict : request.failFast = true → log.failures = []

/-- The promise is kept exactly if no attempt was lost, or if one that failed speaks for it. -/
theorem Summary.Accounts.guaranteed_iff {request : Request} {log : Log} {summary : Summary}
    (accounts : summary.Accounts request log) :
    summary.Guaranteed request.failFast ↔
      log.abandoned = [] ∨ request.failFast = false ∧ log.failures ≠ [] := by
  have zero : summary.failed = 0 ↔ log.failures = [] ∧ log.abandoned = [] := by
    rw [← List.length_eq_zero_iff, ← List.length_eq_zero_iff, ← UInt32.toNat_inj, accounts.failed]
    exact Nat.add_eq_zero_iff
  have shown : summary.firstFailure.isSome = true ↔ log.failures ≠ [] := by
    rw [accounts.firstFailure]
    cases log.failures <;> simp
  rw [Guaranteed, ne_eq, zero, shown]
  cases strict : request.failFast with
  | true => simp [accounts.strict strict]
  | false => by_cases none : log.failures = [] <;> simp [none]

namespace Crew

variable {request : Request} {observer : Observer} {supply : Supply} {crew : Crew}

theorem accounts_settle (h : Reached observer supply (request.crew observer) crew)
    (allOver : crew.isOver = true) (pool : Pool) {summary : Summary}
    (concludes : (crew.settle request observer pool).2.2 = .succeeded summary) :
    summary.Accounts request (crew.settle request observer pool).1.log := by
  have faithful := faithful_reached h
  obtain ⟨notices, course, -⟩ := settle_course request observer crew pool faithful
  obtain ⟨rfl, lenient⟩ := course.summary concludes
  have total := total_settle h allOver pool
  have kept := kept_settle faithful request observer pool
  dsimp only at total kept
  rw [established_settle] at total
  have bound : crew.log.established.length ≤ request.target.toNat := by omega
  refine ⟨?_, ?_, kept, fun strict => ?_⟩
  · rw [toNat_ofNat_of_le bound, established_settle]
  · rw [toNat_sub_ofNat bound]
    omega
  · rw [← List.head?_eq_none_iff, ← kept, lenient strict]

end Crew

namespace Run

open Crew

theorem Phase.accounts {request : Request} {observer : Observer} {plan : Plan} {supply : Supply}
    {pool after : Pool} {crew : Crew} {conclusion : Option Conclusion} {summary : Summary}
    (phase : Phase request observer plan supply pool crew after conclusion)
    (concludes : conclusion = some (.succeeded summary)) : summary.Accounts request crew.log := by
  cases phase with
  | settled begins paused allOver =>
    exact accounts_settle paused.reached allOver pool (Option.some.inj concludes)
  | rejected | refused | running | dropped => cases concludes

/-- A summary counts all attempts that came to nothing as failed, and shows the first failure that
was recorded. So its promise is kept as long as no worker is cancelled with an attempt in hand, and
fails with such a worker unless another attempt failed and was allowed to. The same holds when the
workers take their steps in any other order, and when only some are cancelled. -/
theorem summary_guarantee (request : Request) (level : Option Level) (plan : Plan) (pool : Pool)
    (steps : List Step) :
    let observer := Observer.ofRequest request level
    let run := (play request level plan pool steps).1
    (∀ summary, run.conclusion = some (.succeeded summary) →
        summary.Accounts request run.crew.log ∧
          (summary.Guaranteed request.failFast ↔ run.crew.log.abandoned = [] ∨
            request.failFast = false ∧ run.crew.log.failures ≠ [])) ∧
      ∀ actions : List Action,
        let crew := (request.crew observer).run observer actions
        let settled := crew.settle request observer pool
        crew.isOver = true → ∀ summary, settled.2.2 = .succeeded summary →
          summary.Accounts request settled.1.log ∧
            (summary.Guaranteed request.failFast ↔ settled.1.log.abandoned = [] ∨
              request.failFast = false ∧ settled.1.log.failures ≠ []) := by
  intro observer run
  have inPhase : InPhase request observer plan anything pool run :=
    inPhase_play request level plan pool steps
  refine ⟨fun summary concludes => ?_, fun actions => ?_⟩
  · have accounts := inPhase.phase.accounts concludes
    exact ⟨accounts, accounts.guaranteed_iff⟩
  · intro crew settled allOver summary concludes
    have accounts := accounts_settle (reached_run _ actions) allOver pool concludes
    exact ⟨accounts, accounts.guaranteed_iff⟩

/-- Two workers, of which one is cancelled with its attempt in flight. One connection is missing, no
failure was recorded, and although no attempt may fail the pool gets the other connection. -/
theorem summary_not_guaranteed_when_cancelled :
    let run := (play ⟨2, 2, true, none, none⟩ none (fun _ => none) .fresh
      [.finish [(0, .ok "c0")], .shutdown]).1
    run.conclusion = some (.succeeded ⟨1, 1, none⟩) ∧
      run.crew.log.poolCalls = [.accept "c0"] ∧ run.crew.log.abandoned = [1] ∧
      ¬ (⟨1, 1, none⟩ : Summary).Guaranteed true := by
  decide +kernel

end Run

end Preconnect
