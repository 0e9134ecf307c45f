import Preconnect.Proofs.Labor
import Preconnect.Proofs.Matching

/-!
Logs told again. Where the log that one observer leaves behind can be told again as that of another
one, warm-ups under the two do the same, up to the retelling. Panics of handlers and pools included.
-/
namespace Preconnect

/-- The logs of one observer can be told again as those of the other, whose handler panics alike.
What is done is told as it was; what observers get to know may be told in another way. -/
structure Observer.Retells (observer observer' : Observer) (retell : Log → Log) : Prop where
  panics : ∀ notice, observer'.panic? notice = observer.panic? notice
  add : ∀ log happening, happening.isTold = false →
    (retell log).add happening = retell (log.add happening)
  trace : ∀ log record, record.level ≠ .debug →
    observer'.trace (retell log) record = retell (observer.trace log record)
  emit : ∀ log notice, observer'.emit (retell log) notice = retell (observer.emit log notice)

open Observer (Retells)

variable {observer observer' : Observer} {plan : Plan} {retell : Log → Log}

theorem Observer.Retells.drop (h : Retells observer observer' retell) (log : Log)
    (connections : List Connection) :
    (retell log).drop connections = retell (log.drop connections) :=
  List.foldl_hom retell fun log connection => h.add log (.dropped connection) rfl

def Crew.retold (retell : Log → Log) (crew : Crew) : Crew := { crew with log := retell crew.log }

def Labor.retold (retell : Log → Log) (labor : Labor) : Labor :=
  { labor with crew := labor.crew.retold retell }

def Books.retold (retell : Log → Log) (books : Books) : Books :=
  { books with log := retell books.log }

namespace Crew

variable (h : Retells observer observer' retell) (crew : Crew)
include h

theorem advance_retold (worker : Nat) (stage : Stage) :
    (crew.retold retell).advance observer' worker stage =
      (crew.advance observer worker stage).retold retell := by
  have quiet : Level.trace ≠ .debug := by decide
  cases stage with
  | fresh =>
    simp only [advance, retold, h.trace _ (.workerStarted worker) quiet]
    rfl
  | idle =>
    simp only [advance, retold, h.trace _ (.workerStopped worker) quiet]
    cases crew.queue.next? <;> rfl
  | assigned attempt =>
    simp only [advance, retold, h.add _ (.began worker attempt) rfl]
    rfl
  | settled attempt result =>
    simp only [advance, retold, h.add _ (.finished worker attempt result) rfl]
    cases result <;> rfl
  | recorded attempt result =>
    simp only [advance, retold, h.emit, h.panics]
    rfl
  | waiting | ended => rfl

theorem step_retold (action : Action) :
    (crew.retold retell).step observer' action = (crew.step observer action).retold retell := by
  have stages : (crew.retold retell).stages = crew.stages := rfl
  cases action with
  | advance worker =>
    simp only [step, stages]
    cases crew.stages[worker]? with
    | none => rfl
    | some stage => exact advance_retold h crew worker stage
  | finish worker outcome =>
    simp only [step, stages]
    cases crew.stages[worker]? with
    | none => rfl
    | some stage => cases stage <;> rfl
  | cancel worker =>
    simp only [step, stages]
    cases crew.stages[worker]? with
    | none => rfl
    | some stage =>
      cases stage with
      | assigned attempt | waiting attempt | settled attempt =>
        simp only [cancel, retold, Stage.held?, h.add _ (.abandoned worker attempt) rfl]
        rfl
      | fresh | idle | recorded | ended => rfl

theorem run_retold (actions : List Action) :
    (crew.retold retell).run observer' actions = (crew.run observer actions).retold retell :=
  List.foldl_hom (retold retell) fun crew action => step_retold h crew action

theorem turn_retold (worker : Nat) :
    (crew.retold retell).turn observer' plan worker =
      (crew.turn observer plan worker).retold retell := by
  fun_induction turn observer plan worker crew with
  | case1 crew rests => exact turn_of_rests observer' rests
  | case2 crew action next ih =>
    have next' : (crew.retold retell).stages[worker]?.bind (Stage.next? plan worker) =
        some action := next
    rw [turn_of_next next', step_retold h]
    exact ih

theorem turns_retold (workers : List Nat) :
    (crew.retold retell).turns observer' plan workers =
      (crew.turns observer plan workers).retold retell :=
  List.foldl_hom (retold retell) fun crew worker => turn_retold h crew worker

theorem release_retold (items : List (Nat × Outcome)) :
    (crew.retold retell).release observer' items =
      ((crew.release observer items).1.retold retell, (crew.release observer items).2) := by
  induction items generalizing crew with
  | nil => rfl
  | cons item rest ih =>
    have same : (crew.retold retell).workerOf? item.1 = crew.workerOf? item.1 := rfl
    cases found : crew.workerOf? item.1 with
    | none => simp only [release, same, found, ih]
    | some worker => simp only [release, same, found, step_retold h, ih]

theorem resume_retold (items : List (Nat × Outcome)) :
    (crew.retold retell).resume observer' plan items =
      (crew.resume observer plan items).retold retell := by
  rw [resume, release_retold h, turns_retold h, resume]

theorem cancelAll_retold :
    (crew.retold retell).cancelAll observer' = (crew.cancelAll observer).retold retell :=
  List.foldl_hom (retold retell) fun crew worker => step_retold h crew (.cancel worker)

theorem heed_retold (step : Step) :
    (crew.retold retell).heed observer' plan step =
      (crew.heed observer plan step).retold retell := by
  cases step with
  | finish | finishAll => exact resume_retold h crew _
  | cancel | shutdown => exact cancelAll_retold h crew
  | wait | receive | closeReceiver => rfl

theorem reportMishaps_retold :
    (crew.retold retell).reportMishaps observer' =
      (crew.reportMishaps observer).retold retell :=
  congrArg (fun log => { crew with log }) <| List.foldl_hom retell
    fun log mishap => h.trace log (.workerTerminated mishap.1 mishap.2) nofun

theorem giveUp_retold (attempt : Nat) :
    (crew.retold retell).giveUp attempt = (crew.giveUp attempt).retold retell := by
  simp only [giveUp, retold, h.add _ (.neverRun attempt) rfl]
  rfl

theorem joined_retold :
    (crew.retold retell).joined observer' = (crew.joined observer).retold retell := by
  rw [joined, reportMishaps_retold h, recordNeverRun_eq, joined, recordNeverRun_eq]
  let emptied : Crew := { crew.reportMishaps observer with queue := ⟨[]⟩ }
  show _ = (List.foldl giveUp emptied _).retold retell
  rw [← List.foldl_hom (retold retell) fun crew attempt => giveUp_retold h crew attempt]
  rfl

theorem dropped_retold : (crew.retold retell).dropped = crew.dropped.retold retell := by
  simp only [dropped, retold, h.drop]

end Crew

section
variable (h : Retells observer observer' retell)
include h

theorem Labor.heed_retold (labor : Labor) (step : Step) :
    (labor.retold retell).heed observer' plan step =
      (labor.heed observer plan step).retold retell := by
  have same : (labor.retold retell).crew.isOver = labor.crew.isOver := rfl
  rw [heed, heed, same]
  cases labor.crew.isOver with
  | true => rfl
  | false =>
    exact congrArg (Labor.mk · step.givesUp) (Crew.heed_retold h labor.crew step)

theorem Crew.labor_retold (crew : Crew) (steps : List Step) :
    (crew.retold retell).labor observer' plan steps =
      (crew.labor observer plan steps).retold retell := by
  have size : (crew.retold retell).stages.size = crew.stages.size := rfl
  rw [labor, size, turns_retold h]
  let begun : Labor := { crew := crew.turns observer plan (List.range crew.stages.size) }
  show _ = (steps.foldl (Labor.heed observer plan) begun).retold retell
  rw [← List.foldl_hom (Labor.retold retell) fun labor step => labor.heed_retold h step]
  rfl

end

namespace Books

variable (h : Retells observer observer' retell) (books : Books)
include h

theorem emit_retold (notice : Notice) :
    (books.retold retell).emit observer' notice =
      ((books.emit observer notice).1.retold retell, (books.emit observer notice).2) := by
  simp only [Books.emit, retold, h.emit, h.panics]

theorem drop_retold (connections : List Established) :
    (books.retold retell).drop connections = (books.drop connections).retold retell := by
  simp only [Books.drop, retold, h.drop]

theorem call_retold (call : PoolCall) :
    (books.retold retell).call call =
      ((books.call call).1.retold retell, (books.call call).2) := by
  simp only [Books.call, retold, h.add _ (.called call) rfl]
  split
  · rw [h.drop]
  · rfl

theorem acceptAll_retold (connections : List Established) :
    (books.retold retell).acceptAll connections =
      ((books.acceptAll connections).1.retold retell, (books.acceptAll connections).2) := by
  induction connections generalizing books with
  | nil => rfl
  | cons established rest ih =>
    rw [acceptAll, call_retold h, acceptAll]
    rcases books.call (.accept established.connection) with ⟨middle, panic⟩
    cases panic with
    | none => exact ih middle
    | some payload => exact Prod.ext (drop_retold h middle rest) rfl

theorem closeAll_retold (connections : List Established) :
    (books.retold retell).closeAll observer' connections =
      ((books.closeAll observer connections).1.retold retell,
        (books.closeAll observer connections).2) := by
  induction connections generalizing books with
  | nil => rfl
  | cons established rest ih =>
    rw [closeAll, call_retold h, closeAll]
    rcases books.call (.close established.connection) with ⟨middle, panic⟩
    cases panic with
    | some payload => exact Prod.ext (drop_retold h middle rest) rfl
    | none =>
      dsimp only
      rw [emit_retold h]
      rcases middle.emit observer (.closed established.attempt) with ⟨later, panic⟩
      cases panic with
      | none => exact ih later
      | some payload => exact Prod.ext (drop_retold h later rest) rfl

omit books in
theorem conclude_retold (notice : Notice) (conclusion : Conclusion)
    (result : Books × Option Payload) :
    conclude observer' notice conclusion (result.1.retold retell, result.2) =
      ((conclude observer notice conclusion result).1.retold retell,
        (conclude observer notice conclusion result).2) := by
  obtain ⟨books, panic⟩ := result
  cases panic with
  | some payload => rfl
  | none =>
    simp only [conclude, emit_retold h]
    rcases books.emit observer notice with ⟨later, panic⟩
    cases panic <;> rfl

end Books

namespace Crew

variable (h : Retells observer observer' retell) (request : Request) (crew : Crew) (pool : Pool)
include h

theorem ending_retold :
    (crew.retold retell).ending request observer' pool =
      ((crew.ending request observer pool).1.retold retell,
        (crew.ending request observer pool).2) := by
  unfold ending
  rw [joined_retold h]
  have books : (⟨((crew.joined observer).retold retell).log, pool⟩ : Books) =
      Books.retold retell ⟨(crew.joined observer).log, pool⟩ := rfl
  have arrivals : ((crew.joined observer).retold retell).arrivals =
      (crew.joined observer).arrivals := rfl
  have firstFailure : ((crew.joined observer).retold retell).firstFailure =
      (crew.joined observer).firstFailure := rfl
  simp only [books, arrivals, firstFailure, Books.acceptAll_retold h, Books.closeAll_retold h,
    Books.conclude_retold h]
  split <;> rfl

theorem settle_retold :
    (crew.retold retell).settle request observer' pool =
      ((crew.settle request observer pool).1.retold retell,
        (crew.settle request observer pool).2) := by
  rw [settle_eq, settle_eq, ending_retold h, joined_retold h]
  rfl

end Crew

end Preconnect
