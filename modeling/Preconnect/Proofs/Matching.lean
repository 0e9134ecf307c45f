import Preconnect.Proofs.Growth
import Preconnect.Proofs.Returning

/-!
Crews that differ in nothing but their observers. What observers get to know is written into the log
and read by nobody, so that two such crews take the same steps as long as no handler panics. After
each of them their logs still tell of the same deeds.
-/
namespace Preconnect

def Happening.isTold : Happening → Bool
  | traced _ | emitted _ => true
  | began .. | finished .. | abandoned .. | neverRun _ | called _ | dropped _ => false

theorem Happening.isWork_of_isTold {happening : Happening} (told : happening.isTold = true) :
    happening.isWork = false := by
  cases happening with
  | traced | emitted => rfl
  | began | finished | abandoned | neverRun | called | dropped => cases told

namespace Log

/-- All that has happened, without what observers got to know of it. -/
def deeds (log : Log) : List Happening := log.toList.filter fun happening => !happening.isTold

theorem deeds_add (log : Log) (happening : Happening) :
    (log.add happening).deeds = log.deeds ++ if happening.isTold then [] else [happening] := by
  rw [deeds, toList_add, List.filter_append, List.filter_singleton]
  cases happening.isTold <;> rfl

theorem view_eq_deeds {α : Type} {find : Happening → Option α} (log : Log)
    (silent : ∀ happening, happening.isTold = true → find happening = none) :
    log.view find = log.deeds.filterMap find := by
  rw [view, deeds, List.filterMap_filter]
  refine List.filterMap_congr fun happening _ => ?_
  cases told : happening.isTold with
  | true => exact silent happening told
  | false => rfl

def Harmless (handler : Option Handler) (log : Log) : Prop :=
  ∀ event ∈ log.events, event.panic? handler = none

theorem Harmless.earlier {handler : Option Handler} {log later : Log}
    (h : later.Harmless handler) (grows : log.Grows later) : log.Harmless handler :=
  fun event member => h event ((grows.view Happening.emitted?).subset member)

/-- The logs tell of the same deeds, and the same to handlers of one pool. -/
structure Matches (observer observer' : Observer) (log log' : Log) : Prop where
  deeds : log'.deeds = log.deeds
  events : observer.handler.isSome = true → observer'.handler.isSome = true →
    observer'.pool = observer.pool → log'.events = log.events

variable {observer observer' : Observer} {log log' : Log}

theorem Matches.add (h : log.Matches observer observer' log') (happening : Happening) :
    (log.add happening).Matches observer observer' (log'.add happening) where
  deeds := by rw [deeds_add, deeds_add, h.deeds]
  events handled handled' pool := by
    rw [Log.events, Log.events, view_add, view_add]
    exact congrArg (· ++ _) (h.events handled handled' pool)

theorem Matches.drop (h : log.Matches observer observer' log') (connections : List Connection) :
    (log.drop connections).Matches observer observer' (log'.drop connections) := by
  unfold Log.drop
  induction connections generalizing log log' with
  | nil => exact h
  | cons connection rest ih => exact ih (h.add (.dropped connection))

theorem deeds_trace (observer : Observer) (log : Log) (record : Record) :
    (observer.trace log record).deeds = log.deeds := by
  unfold Observer.trace
  split
  · rw [deeds_add]
    exact List.append_nil _
  · rfl

theorem deeds_emit (observer : Observer) (log : Log) (notice : Notice) :
    (observer.emit log notice).deeds = log.deeds := by
  unfold Observer.emit
  split
  · rw [deeds_add, deeds_trace]
    exact List.append_nil _
  · rfl

theorem Matches.trace (h : log.Matches observer observer' log') (record : Record) :
    (observer.trace log record).Matches observer observer' (observer'.trace log' record) where
  deeds := by rw [deeds_trace, deeds_trace, h.deeds]
  events handled handled' pool := by simpa using h.events handled handled' pool

theorem Matches.emit (h : log.Matches observer observer' log') (notice : Notice) :
    (observer.emit log notice).Matches observer observer' (observer'.emit log' notice) where
  deeds := by rw [deeds_emit, deeds_emit, h.deeds]
  events handled handled' pool := by
    have same := h.events handled handled' pool
    simp only [Log.events] at same
    simp [Observer.told, Observer.wantsEvents, Observer.event, handled, handled', pool, same]

theorem Harmless.returned {notice : Notice}
    (h : (observer.emit log notice).Harmless observer.handler) :
    observer.panic? notice = none := by
  have told : ∀ event ∈ observer.told [notice], event.panic? observer.handler = none := by
    intro event member
    apply h event
    rw [Log.events, Observer.events_emit]
    exact List.mem_append_right _ member
  exact Observer.calm_of_told told notice List.mem_cons_self

end Log

namespace Crew

inductive Matches (observer observer' : Observer) (crew : Crew) : Crew → Prop
  | mk {log' : Log} (logs : crew.log.Matches observer observer' log') :
    Matches observer observer' crew { crew with log := log' }

variable {observer observer' : Observer} {plan : Plan} {crew crew' : Crew}

theorem matches_ofCounts {log log' : Log} (logs : log.Matches observer observer' log')
    (target workers : Nat) :
    Matches observer observer' (.ofCounts target workers log) (.ofCounts target workers log') :=
  .mk logs

theorem Matches.log (h : Matches observer observer' crew crew') :
    crew.log.Matches observer observer' crew'.log := by
  cases h with
  | mk logs => exact logs

theorem Matches.stages (h : Matches observer observer' crew crew') :
    crew'.stages = crew.stages := by
  cases h
  rfl

theorem Matches.arrivals (h : Matches observer observer' crew crew') :
    crew'.arrivals = crew.arrivals := by
  cases h
  rfl

theorem Matches.firstFailure (h : Matches observer observer' crew crew') :
    crew'.firstFailure = crew.firstFailure := by
  cases h
  rfl

theorem Matches.setStage (h : Matches observer observer' crew crew') (worker : Nat)
    (stage : Stage) :
    Matches observer observer' (crew.setStage worker stage) (crew'.setStage worker stage) := by
  cases h with
  | mk logs => exact .mk logs

theorem Matches.record (h : Matches observer observer' crew crew') (attempt : Nat)
    (result : Except Error Connection) :
    Matches observer observer' (crew.record attempt result) (crew'.record attempt result) := by
  cases h with
  | mk logs => cases result <;> exact .mk logs

theorem Matches.advance (h : Matches observer observer' crew crew') (worker : Nat) (stage : Stage)
    (quiet : (crew.advance observer worker stage).log.Harmless observer.handler)
    (quiet' : (crew'.advance observer' worker stage).log.Harmless observer'.handler) :
    Matches observer observer' (crew.advance observer worker stage)
      (crew'.advance observer' worker stage) := by
  obtain ⟨logs⟩ := h
  cases stage with
  | fresh => exact .mk (logs.trace _)
  | idle =>
    simp only [Crew.advance]
    cases crew.queue.next? with
    | none => exact .mk (logs.trace _)
    | some taken => exact .mk logs
  | assigned attempt => exact .mk (logs.add _)
  | settled attempt result => exact (Matches.record (.mk (logs.add _)) _ _).setStage _ _
  | recorded attempt result =>
    have returned := Log.Harmless.returned quiet
    have returned' := Log.Harmless.returned quiet'
    simp only [Crew.advance, returned, returned']
    exact .mk (logs.emit _)
  | waiting | ended => exact .mk logs

theorem Matches.finish (h : Matches observer observer' crew crew') (worker : Nat)
    (outcome : Outcome) :
    Matches observer observer' (crew.step observer (.finish worker outcome))
      (crew'.step observer' (.finish worker outcome)) := by
  simp only [step, h.stages]
  cases crew.stages[worker]? with
  | none => exact h
  | some stage =>
    cases stage with
    | waiting attempt call => exact h.setStage _ _
    | fresh | idle | assigned | settled | recorded | ended => exact h

theorem Matches.cancel (h : Matches observer observer' crew crew') (worker : Nat) :
    Matches observer observer' (crew.step observer (.cancel worker))
      (crew'.step observer' (.cancel worker)) := by
  simp only [step, h.stages]
  obtain ⟨logs⟩ := h
  cases crew.stages[worker]? with
  | none => exact .mk logs
  | some stage =>
    cases stage with
    | ended => exact .mk logs
    | fresh | idle | recorded => exact .mk logs
    | assigned | waiting | settled => exact .mk (logs.add _)

theorem turn_of_rests {worker : Nat} (observer : Observer) (rests : Rests plan crew worker) :
    crew.turn observer plan worker = crew := by
  rw [turn]
  split
  · rfl
  · rename_i next
    cases rests.symm.trans next

theorem turn_of_next {worker : Nat} {action : Action}
    (next : crew.stages[worker]?.bind (Stage.next? plan worker) = some action) :
    crew.turn observer plan worker =
      (crew.step observer action).turn observer plan worker := by
  rw [turn]
  split
  · rename_i rests
    cases next.symm.trans rests
  · rename_i other
    cases next.symm.trans other
    rfl

theorem Matches.turn {worker : Nat} (h : Matches observer observer' crew crew')
    (quiet : (crew.turn observer plan worker).log.Harmless observer.handler)
    (quiet' : (crew'.turn observer' plan worker).log.Harmless observer'.handler) :
    Matches observer observer' (crew.turn observer plan worker)
      (crew'.turn observer' plan worker) := by
  fun_induction Crew.turn observer plan worker crew generalizing crew' with
  | case1 crew rests =>
    rw [turn_of_rests]
    · exact h
    · rwa [Rests, h.stages]
  | case2 crew action next ih =>
    have next' : crew'.stages[worker]?.bind (Stage.next? plan worker) = some action := by
      rwa [h.stages]
    rw [turn_of_next next'] at quiet' ⊢
    refine ih ?_ quiet quiet'
    have quiet := quiet.earlier (grows_turn observer plan worker _)
    have quiet' := quiet'.earlier (grows_turn observer' plan worker _)
    obtain rfl | ⟨outcome, rfl⟩ := own_of_next next
    · obtain ⟨stage, here, -⟩ := Option.bind_eq_some_iff.1 next
      have here' := here
      rw [← h.stages] at here'
      simp only [step, here, here'] at quiet quiet' ⊢
      exact h.advance worker stage quiet quiet'
    · exact h.finish worker outcome

theorem Matches.turns (h : Matches observer observer' crew crew') (workers : List Nat)
    (quiet : (crew.turns observer plan workers).log.Harmless observer.handler)
    (quiet' : (crew'.turns observer' plan workers).log.Harmless observer'.handler) :
    Matches observer observer' (crew.turns observer plan workers)
      (crew'.turns observer' plan workers) := by
  induction workers generalizing crew crew' with
  | nil => exact h
  | cons worker rest ih =>
    have first := quiet.earlier (grows_turns observer plan (crew.turn observer plan worker) rest)
    have first' :=
      quiet'.earlier (grows_turns observer' plan (crew'.turn observer' plan worker) rest)
    exact ih (h.turn first first') quiet quiet'

theorem Matches.workerOf? (h : Matches observer observer' crew crew') (attempt : Nat) :
    crew'.workerOf? attempt = crew.workerOf? attempt := by
  rw [Crew.workerOf?, h.stages, Crew.workerOf?]

theorem Matches.release (h : Matches observer observer' crew crew')
    (items : List (Nat × Outcome)) :
    Matches observer observer' (crew.release observer items).1
        (crew'.release observer' items).1 ∧
      (crew'.release observer' items).2 = (crew.release observer items).2 := by
  induction items generalizing crew crew' with
  | nil => exact ⟨h, rfl⟩
  | cons item rest ih =>
    cases found : crew.workerOf? item.1 with
    | none =>
      obtain ⟨after, same⟩ := ih h
      simp only [Crew.release, h.workerOf?, found]
      exact ⟨after, congrArg (fun rest => (rest.1, item.1 :: rest.2)) same⟩
    | some worker =>
      obtain ⟨after, same⟩ := ih (h.finish worker item.2)
      simp only [Crew.release, h.workerOf?, found]
      exact ⟨after, congrArg (fun rest => (worker :: rest.1, rest.2)) same⟩

theorem Matches.cancelAll (h : Matches observer observer' crew crew') :
    Matches observer observer' (crew.cancelAll observer) (crew'.cancelAll observer') := by
  unfold Crew.cancelAll
  rw [h.stages]
  generalize List.range crew.stages.size = workers
  induction workers generalizing crew crew' with
  | nil => exact h
  | cons worker rest ih => exact ih (h.cancel worker)

theorem Matches.reportMishaps (h : Matches observer observer' crew crew') :
    Matches observer observer' (crew.reportMishaps observer) (crew'.reportMishaps observer') := by
  have same : crew'.mishaps = crew.mishaps := by rw [mishaps, h.stages, mishaps]
  unfold Crew.reportMishaps
  rw [same]
  clear same
  generalize crew.mishaps = mishaps
  obtain @⟨log', logs⟩ := h
  refine .mk ?_
  dsimp only
  generalize crew.log = log at logs ⊢
  induction mishaps generalizing log log' with
  | nil => exact logs
  | cons mishap rest ih => exact ih _ (logs.trace _)

theorem Matches.giveUp (h : Matches observer observer' crew crew') (attempts : List Nat) :
    Matches observer observer' (attempts.foldl Crew.giveUp crew)
      (attempts.foldl Crew.giveUp crew') := by
  induction attempts generalizing crew crew' with
  | nil => exact h
  | cons attempt rest ih =>
    obtain ⟨logs⟩ := h
    exact ih (Matches.record (.mk (logs.add _)) _ _)

theorem Matches.joined (h : Matches observer observer' crew crew') :
    Matches observer observer' (crew.joined observer) (crew'.joined observer') := by
  rw [Crew.joined, Crew.joined, recordNeverRun_eq, recordNeverRun_eq]
  have reported := h.reportMishaps
  generalize crew.reportMishaps observer = before at reported ⊢
  generalize crew'.reportMishaps observer' = before' at reported ⊢
  obtain @⟨log', logs⟩ := reported
  have emptied : Matches observer observer' { before with queue := ⟨[]⟩ }
      { before with queue := ⟨[]⟩, log := log' } := .mk logs
  exact emptied.giveUp before.queue.attempts

end Crew

namespace Books

theorem harmless_of_conclude {handler : Option Handler} {notice : Notice}
    {conclusion : Conclusion} {result : Books × Option Payload}
    (quiet : (conclude observer notice conclusion result).1.log.Harmless handler) :
    result.1.log.Harmless handler :=
  quiet.earlier (grows_conclude observer notice conclusion result)

inductive Matches (observer observer' : Observer) (books : Books) : Books → Prop
  | mk {log' : Log} (logs : books.log.Matches observer observer' log') :
    Matches observer observer' books { books with log := log' }

variable {observer observer' : Observer} {books books' : Books}

theorem Matches.call (h : Matches observer observer' books books') (call : PoolCall) :
    Matches observer observer' (books.call call).1 (books'.call call).1 ∧
      (books'.call call).2 = (books.call call).2 := by
  obtain ⟨logs⟩ := h
  simp only [Books.call]
  refine ⟨?_, trivial⟩
  split
  · exact .mk ((logs.add _).drop _)
  · exact .mk (logs.add _)

theorem Matches.emit (h : Matches observer observer' books books') (notice : Notice) :
    Matches observer observer' (books.emit observer notice).1
      (books'.emit observer' notice).1 := by
  obtain ⟨logs⟩ := h
  exact .mk (logs.emit notice)

theorem Matches.drop (h : Matches observer observer' books books')
    (connections : List Established) :
    Matches observer observer' (books.drop connections) (books'.drop connections) := by
  obtain ⟨logs⟩ := h
  exact .mk (logs.drop _)

theorem Matches.acceptAll (h : Matches observer observer' books books')
    (connections : List Established) :
    Matches observer observer' (books.acceptAll connections).1
        (books'.acceptAll connections).1 ∧
      (books'.acceptAll connections).2 = (books.acceptAll connections).2 := by
  induction connections generalizing books books' with
  | nil => exact ⟨h, rfl⟩
  | cons established rest ih =>
    obtain ⟨after, same⟩ := h.call (.accept established.connection)
    rw [Books.acceptAll, Books.acceptAll]
    rcases called : books.call (.accept established.connection) with ⟨middle, panic⟩
    rcases called' : books'.call (.accept established.connection) with ⟨middle', panic'⟩
    rw [called, called'] at after same
    cases same
    cases panic with
    | none => exact ih after
    | some payload => exact ⟨after.drop rest, rfl⟩

theorem closeAll_of_quiet {established : Established} {rest : List Established} {middle : Books}
    (called : books.call (.close established.connection) = (middle, none))
    (quiet : (books.closeAll observer (established :: rest)).1.log.Harmless observer.handler) :
    books.closeAll observer (established :: rest) =
      (middle.emit observer (.closed established.attempt)).1.closeAll observer rest := by
  rw [closeAll, called] at quiet ⊢
  simp only [Books.emit] at quiet ⊢
  cases panicked : observer.panic? (.closed established.attempt) with
  | none => rfl
  | some payload =>
    simp only [panicked] at quiet
    cases panicked.symm.trans (quiet.earlier (Log.grows_drop _ _)).returned

theorem Matches.closeAll (h : Matches observer observer' books books')
    (connections : List Established)
    (quiet : (books.closeAll observer connections).1.log.Harmless observer.handler)
    (quiet' : (books'.closeAll observer' connections).1.log.Harmless observer'.handler) :
    Matches observer observer' (books.closeAll observer connections).1
        (books'.closeAll observer' connections).1 ∧
      (books'.closeAll observer' connections).2 = (books.closeAll observer connections).2 := by
  induction connections generalizing books books' with
  | nil => exact ⟨h, rfl⟩
  | cons established rest ih =>
    obtain ⟨after, same⟩ := h.call (.close established.connection)
    rcases called : books.call (.close established.connection) with ⟨middle, panic⟩
    rcases called' : books'.call (.close established.connection) with ⟨middle', panic'⟩
    rw [called, called'] at after same
    cases same
    cases panic with
    | none =>
      have next := closeAll_of_quiet called quiet
      have next' := closeAll_of_quiet called' quiet'
      rw [next] at quiet ⊢
      rw [next'] at quiet' ⊢
      exact ih (after.emit _) quiet quiet'
    | some payload =>
      rw [Books.closeAll, Books.closeAll, called, called']
      exact ⟨after.drop rest, rfl⟩

theorem conclude_of_quiet {notice : Notice} {conclusion : Conclusion}
    (quiet : (conclude observer notice conclusion (books, none)).1.log.Harmless
      observer.handler) :
    conclude observer notice conclusion (books, none) =
      ((books.emit observer notice).1, conclusion) := by
  simp only [conclude, Books.emit] at quiet ⊢
  cases panicked : observer.panic? notice with
  | none => rfl
  | some payload =>
    simp only [panicked] at quiet
    cases panicked.symm.trans quiet.returned

theorem Matches.conclude {result result' : Books × Option Payload}
    (h : Matches observer observer' result.1 result'.1) (same : result'.2 = result.2)
    (notice : Notice) (conclusion : Conclusion)
    (quiet : (conclude observer notice conclusion result).1.log.Harmless observer.handler)
    (quiet' : (conclude observer' notice conclusion result').1.log.Harmless observer'.handler) :
    Matches observer observer' (Books.conclude observer notice conclusion result).1
        (Books.conclude observer' notice conclusion result').1 ∧
      (Books.conclude observer' notice conclusion result').2 =
        (Books.conclude observer notice conclusion result).2 := by
  obtain ⟨books, panic⟩ := result
  obtain ⟨books', panic'⟩ := result'
  cases same
  cases panic with
  | some payload => exact ⟨h, rfl⟩
  | none =>
    rw [conclude_of_quiet quiet, conclude_of_quiet quiet']
    exact ⟨h.emit notice, rfl⟩

end Books

namespace Crew

variable {observer observer' : Observer} {crew crew' : Crew} {request request' : Request}

theorem Matches.ending (h : Matches observer observer' crew crew') (pool : Pool)
    (target : request'.target = request.target) (failFast : request'.failFast = request.failFast)
    (quiet : (crew.ending request observer pool).1.log.Harmless observer.handler)
    (quiet' : (crew'.ending request' observer' pool).1.log.Harmless observer'.handler) :
    Books.Matches observer observer' (crew.ending request observer pool).1
        (crew'.ending request' observer' pool).1 ∧
      (crew'.ending request' observer' pool).2 = (crew.ending request observer pool).2 := by
  have joined := h.joined
  have books : Books.Matches observer observer' ⟨(crew.joined observer).log, pool⟩
      ⟨(crew'.joined observer').log, pool⟩ := .mk joined.log
  by_cases lenient : request.failFast = true → (crew.joined observer).firstFailure.kept = none
  · have lenient' : request'.failFast = true →
        (crew'.joined observer').firstFailure.kept = none := by
      rwa [failFast, joined.firstFailure]
    rw [ending_of_lenient lenient] at quiet ⊢
    rw [ending_of_lenient lenient', joined.firstFailure, joined.arrivals, target]
      at quiet' ⊢
    obtain ⟨accepted, same⟩ := books.acceptAll (crew.joined observer).arrivals.held.toList
    exact accepted.conclude same _ _ quiet quiet'
  · obtain ⟨strict, kept⟩ := Classical.not_imp.1 lenient
    obtain ⟨failure, failed⟩ := Option.ne_none_iff_exists'.1 kept
    rw [ending_of_failure strict failed] at quiet ⊢
    rw [ending_of_failure (failFast.trans strict)
      ((congrArg FirstFailure.kept joined.firstFailure).trans failed), joined.arrivals] at quiet' ⊢
    obtain ⟨closed, same⟩ := books.closeAll _ (Books.harmless_of_conclude quiet)
      (Books.harmless_of_conclude quiet')
    exact closed.conclude same _ _ quiet quiet'

theorem Matches.settle (h : Matches observer observer' crew crew') (pool : Pool)
    (target : request'.target = request.target) (failFast : request'.failFast = request.failFast)
    (quiet : (crew.settle request observer pool).1.log.Harmless observer.handler)
    (quiet' : (crew'.settle request' observer' pool).1.log.Harmless observer'.handler) :
    Matches observer observer' (crew.settle request observer pool).1
        (crew'.settle request' observer' pool).1 ∧
      (crew'.settle request' observer' pool).2 = (crew.settle request observer pool).2 := by
  have joined := h.joined
  obtain ⟨books, concludes⟩ := h.ending pool target failFast quiet quiet'
  rw [settle_eq, settle_eq]
  generalize crew.joined observer = before at joined ⊢
  generalize crew'.joined observer' = before' at joined ⊢
  generalize crew.ending request observer pool = after at books concludes ⊢
  generalize crew'.ending request' observer' pool = after' at books concludes ⊢
  obtain ⟨after', conclusion'⟩ := after'
  cases joined
  obtain ⟨logs⟩ := books
  exact ⟨.mk logs, congrArg (after.1.pool, ·) concludes⟩

end Crew

end Preconnect
