import Preconnect.Proofs.AllOrNothing
import Preconnect.Proofs.Schedule
import Preconnect.Session

/-!
Warm-ups that share a queue. A queue is only ever appended to: each warm-up that comes to hand its
connections over adds them at the end, in the order of their arrival, and all others leave it alone.
-/
namespace Preconnect

namespace Books

variable (observer : Observer) (log : Log) (queue : Array Connection)

theorem pool_acceptAll_queue (connections : List Established) :
    (acceptAll ⟨log, .queue queue⟩ connections).1.pool =
      .queue (queue ++ (connections.map (·.connection)).toArray) := by
  induction connections generalizing log queue with
  | nil => simp [acceptAll]
  | cons established rest ih =>
    have call : (Books.mk log (.queue queue)).call (.accept established.connection) =
        (⟨log.add (.called (.accept established.connection)),
          .queue (queue.push established.connection)⟩, none) := rfl
    rw [acceptAll, call, ih]
    simp

theorem pool_emit (books : Books) (notice : Notice) :
    (books.emit observer notice).1.pool = books.pool := rfl

theorem pool_closeAll_queue {books : Books} (holds : books.pool = .queue queue)
    (connections : List Established) :
    (books.closeAll observer connections).1.pool = .queue queue := by
  induction connections generalizing books with
  | nil => exact holds
  | cons established rest ih =>
    have call : (books.call (.close established.connection)).1.pool = .queue queue ∧
        (books.call (.close established.connection)).2 = none := by
      obtain ⟨log, pool⟩ := books
      obtain rfl : pool = .queue queue := holds
      exact ⟨rfl, rfl⟩
    rw [closeAll]
    rcases called : books.call (.close established.connection) with ⟨middle, _ | payload⟩
    · rw [called] at call
      have emit := (pool_emit observer middle (.closed established.attempt)).trans call.1
      dsimp only
      rcases told : middle.emit observer (.closed established.attempt) with ⟨later, _ | payload⟩
      · rw [told] at emit
        exact ih emit
      · rw [told] at emit
        exact emit
    · rw [called] at call
      cases call.2

theorem pool_conclude (notice : Notice) (conclusion : Conclusion)
    (result : Books × Option Payload) :
    (conclude observer notice conclusion result).1.pool = result.1.pool := by
  obtain ⟨books, panic⟩ := result
  cases panic with
  | some payload => rfl
  | none =>
    have emit := pool_emit observer books notice
    rw [conclude]
    rcases told : books.emit observer notice with ⟨later, _ | payload⟩ <;>
      · rw [told] at emit
        exact emit

end Books

namespace Run

/-- The warm-up comes to hand its connections over: it was carried out, nobody gave it up before
its workers had ended, and no failure is in the way. -/
structure HandsOver (run : Run) : Prop where
  valid : run.request.invalid? = none
  begun : run.observer.panic? run.request.started = none
  allOver : run.crew.isOver = true
  awaited : run.conclusion ≠ some .cancelled
  unhindered : ¬ (run.request.failFast = true ∧ run.crew.firstFailure.kept.isSome = true)

instance (run : Run) : Decidable run.HandsOver :=
  decidable_of_iff (run.request.invalid? = none ∧ run.observer.panic? run.request.started = none ∧
      run.crew.isOver = true ∧ run.conclusion ≠ some .cancelled ∧
      ¬ (run.request.failFast = true ∧ run.crew.firstFailure.kept.isSome = true))
    ⟨fun ⟨valid, begun, allOver, awaited, unhindered⟩ =>
        ⟨valid, begun, allOver, awaited, unhindered⟩,
      fun h => ⟨h.valid, h.begun, h.allOver, h.awaited, h.unhindered⟩⟩

/-- The connections that the pool gets to keep, in the order of their arrival. -/
def handedOver (run : Run) : List Connection :=
  if run.HandsOver then run.crew.log.established.map (·.connection) else []

end Run

namespace Crew

variable {request : Request} {observer : Observer} {supply : Supply} {crew : Crew}

theorem firstFailure_settle (request : Request) (observer : Observer) (crew : Crew) (pool : Pool) :
    (crew.settle request observer pool).1.firstFailure = (crew.joined observer).firstFailure := by
  rw [settle_eq]

theorem queue_settle_of_failure (queue : Array Connection) {failure : Failure}
    (strict : request.failFast = true)
    (failed : (crew.joined observer).firstFailure.kept = some failure) :
    (crew.settle request observer (.queue queue)).2.1 = .queue queue := by
  rw [settle_eq, ending_of_failure strict failed]
  exact (Books.pool_conclude ..).trans (Books.pool_closeAll_queue observer queue rfl _)

theorem queue_settle_of_lenient (h : Reached observer supply (request.crew observer) crew)
    (queue : Array Connection)
    (lenient : request.failFast = true → (crew.joined observer).firstFailure.kept = none) :
    (crew.settle request observer (.queue queue)).2.1 =
      .queue (queue ++ (crew.log.established.map (·.connection)).toArray) := by
  rw [settle_eq, ending_of_lenient lenient]
  refine (Books.pool_conclude ..).trans ((Books.pool_acceptAll_queue ..).trans ?_)
  rw [arrivals_joined, (faithful_reached h).arrivals]

end Crew

namespace Run

open Crew

variable {request : Request} {observer : Observer} {plan : Plan} {supply : Supply}
  {queue : Array Connection} {run : Run}

theorem handedOver_of_not (other : ¬ run.HandsOver) : run.handedOver = [] := if_neg other

/-- What a warm-up does to a queue, and which warm-ups do anything to it. -/
structure Appends (queue : Array Connection) (run : Run) : Prop where
  pool : run.pool = .queue (queue ++ run.handedOver.toArray)
  returned : ∀ ended, run.conclusion = some ended → ended.isReturn = true →
    (run.HandsOver ↔ ∃ summary, ended = .succeeded summary)
  unreturned : run.conclusion = none ∨ run.conclusion = some .cancelled → ¬ run.HandsOver

theorem appends_of_not (pool : run.pool = .queue queue) (other : ¬ run.HandsOver)
    (unsettled : ∀ summary, run.conclusion ≠ some (.succeeded summary)) : Appends queue run where
  pool := by
    rw [pool, handedOver_of_not other]
    simp
  returned ended concludes _ := by
    refine iff_of_false other ?_
    rintro ⟨summary, rfl⟩
    exact unsettled summary concludes
  unreturned _ := other

theorem handsOver_of_settled {crew : Crew} (begins : run.request.Begins run.observer)
    (allOver : crew.isOver = true)
    (settled : run.crew = (crew.settle run.request run.observer (.queue queue)).1)
    (awaited : run.conclusion ≠ some .cancelled) :
    run.HandsOver ↔
      ¬ (run.request.failFast = true ∧ run.crew.firstFailure.kept.isSome = true) := by
  refine ⟨fun h => h.unhindered, fun h => ⟨begins.valid, begins.returned, ?_, awaited, h⟩⟩
  rw [settled, Crew.isOver, stages_settle]
  exact allOver

theorem InPhase.appends (h : InPhase request observer plan supply (.queue queue) run) :
    Appends queue run := by
  obtain ⟨rfl, rfl, -, phase⟩ := h
  generalize crews : run.crew = crew, pools : run.pool = after,
    concludes : run.conclusion = conclusion at phase
  cases phase with
  | rejected invalid =>
    refine appends_of_not pools (fun h => ?_) (by simp [concludes])
    cases invalid.symm.trans h.valid
  | refused _ panicked =>
    refine appends_of_not pools (fun h => ?_) (by simp [concludes])
    cases panicked.symm.trans h.begun
  | running _ _ alive =>
    refine appends_of_not pools (fun h => ?_) (by simp [concludes])
    cases alive.symm.trans (crews ▸ h.allOver)
  | dropped => exact appends_of_not pools (fun h => h.awaited concludes) (by simp [concludes])
  | @settled crew begins paused allOver =>
    obtain ⟨_, course, -⟩ := settle_course run.request run.observer crew (.queue queue)
      (faithful_reached paused.reached)
    rw [← crews] at course
    have awaited : run.conclusion ≠ some .cancelled := by
      rw [concludes]
      exact fun cancelled => course.not_cancelled (Option.some.inj cancelled)
    have handsOver := handsOver_of_settled begins allOver crews awaited
    have slot : run.crew.firstFailure = (crew.joined run.observer).firstFailure := by
      rw [crews, firstFailure_settle]
    refine ⟨?_, fun ended ends returned => ?_, ?_⟩
    · rw [pools]
      by_cases hindered : run.request.failFast = true ∧ run.crew.firstFailure.kept.isSome = true
      · obtain ⟨failure, failed⟩ := Option.isSome_iff_exists.1 (slot ▸ hindered.2)
        rw [queue_settle_of_failure queue hindered.1 failed,
          handedOver_of_not fun h => h.unhindered hindered]
        simp
      · rw [queue_settle_of_lenient paused.reached queue, handedOver, if_pos (handsOver.2 hindered),
          crews, established_settle]
        intro strict
        rw [← slot]
        simpa [strict] using hindered
    · cases Option.some.inj (concludes.symm.trans ends)
      rw [handsOver]
      rcases course.returned returned with
        ⟨hindered, ⟨failure, failed⟩, -⟩ | ⟨unhindered, succeeded, -⟩
      · rw [failed]
        exact iff_of_false (fun other => other hindered) fun ⟨_, impossible⟩ => by cases impossible
      · exact iff_of_true unhindered ⟨_, succeeded⟩
    · rintro (ongoing | cancelled)
      · cases concludes.symm.trans ongoing
      · exact absurd cancelled awaited

end Run

namespace Script

variable {ε : Type}

/-- What a queue gains from the runs of a session, of which some were no requests. -/
def handedOver (results : List (Except ε (Run × List Entry))) : List Connection :=
  results.flatMap fun
    | .ok (run, _) => run.handedOver
    | .error _ => []

theorem appends_play (script : Script) (queue : Array Connection) :
    (script.play (.queue queue)).1.Appends queue :=
  (Run.inPhase_play script.request script.level script.plan (.queue queue) script.steps).appends

theorem queue_playAll (scripts : List (Except ε Script)) (queue : Array Connection) :
    (playAll (.queue queue) scripts).2 =
      .queue (queue ++ (handedOver (playAll (.queue queue) scripts).1).toArray) := by
  induction scripts generalizing queue with
  | nil => simp [playAll, handedOver]
  | cons script rest ih =>
    cases script with
    | error refusal =>
      simp only [playAll, ih]
      simp [handedOver]
    | ok script =>
      simp only [playAll, (appends_play script queue).pool, ih]
      simp [handedOver]

/-- The second warm-up fails and closes what it has, the third is given up. -/
example :
    let one : Plan := fun attempt => if attempt = 0 then some (.ok "b") else none
    let scripts : List (Except Unit Script) :=
      [.ok ⟨⟨2, 2, true, none, none⟩, none, one, [.finish [(1, .ok "a")]]⟩,
        .ok ⟨⟨2, 1, true, none, none⟩, none, one, [.finish [(1, .panic (.text "no"))]]⟩,
        .ok ⟨⟨2, 1, false, none, none⟩, none, one, [.cancel]⟩, .error (),
        .ok ⟨⟨3, 3, false, none, none⟩, none, one, [.finish [(2, .ok "c")], .shutdown]⟩]
    (playAll (.queue #["old"]) scripts).2 = .queue #["old", "b", "a", "b", "c"] := by
  decide +kernel

end Script

end Preconnect
