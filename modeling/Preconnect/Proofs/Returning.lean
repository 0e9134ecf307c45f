import Preconnect.Proofs.EventProtocol
import Preconnect.Proofs.Schedule

/-!
When a settlement returns. It stops halfway only at a panic, and a panic is the pool's answer to one
of its calls or the handler's to one of its notices.
-/
namespace Preconnect

def Pool.takes (pool : Pool) : List PoolCall → Bool
  | [] => true
  | call :: rest => (pool.call call).2.panic?.isNone && (pool.call call).1.takes rest

theorem Pool.takes_append (pool : Pool) (earlier later : List PoolCall) :
    pool.takes (earlier ++ later) = (pool.takes earlier && (pool.after earlier).takes later) := by
  induction earlier generalizing pool with
  | nil => rfl
  | cons call rest ih =>
    rw [List.cons_append, takes, takes, ih, Bool.and_assoc]
    rfl

def Event.panic? (handler : Option Handler) (event : Event) : Option Payload :=
  handler.bind (·.panic? event)

/-- The handler panics on none of the events but, perhaps, on those of attempts. -/
def Log.Calm (handler : Option Handler) (log : Log) : Prop :=
  ∀ event ∈ log.events, event.notice.settled? = none → event.panic? handler = none

namespace Observer

variable {observer : Observer} {notice : Notice} {payload : Payload}

theorem wantsEvents_of_panic (panicked : observer.panic? notice = some payload) :
    observer.wantsEvents = true := by
  cases handled : observer.handler with
  | none => simp [panic?, handled] at panicked
  | some => simp [wantsEvents, handled]

theorem calm_of_told {notices : List Notice}
    (h : ∀ event ∈ observer.told notices, event.panic? observer.handler = none) :
    ∀ notice ∈ notices, observer.panic? notice = none := by
  intro notice member
  cases panicked : observer.panic? notice with
  | none => rfl
  | some payload =>
    rw [told, if_pos (wantsEvents_of_panic panicked)] at h
    exact panicked.symm.trans (h (observer.event notice) (List.mem_map_of_mem member))

end Observer

namespace Books

/-- What the books went through until they came to the result. It is a panic only if the pool or the
handler has given cause for it. -/
structure Passed (observer : Observer) (books : Books) (result : Books × Option Payload)
    (calls : List PoolCall) (notices : List Notice) : Prop
    extends ChangedBy observer books result.1 calls notices where
  unsettled : ∀ notice ∈ notices, notice.settled? = none
  returned : books.pool.takes calls = true → (∀ notice ∈ notices, observer.panic? notice = none) →
    result.2 = none

variable {observer : Observer} {books middle : Books} {result : Books × Option Payload}
  {calls calls' : List PoolCall} {notices notices' : List Notice} {payload : Payload}

theorem Passed.before (first : Passed observer books (middle, none) calls notices)
    (second : Passed observer middle result calls' notices') :
    Passed observer books result (calls ++ calls') (notices ++ notices') where
  toChangedBy := first.toChangedBy.trans second.toChangedBy
  unsettled notice member :=
    (List.mem_append.1 member).elim (first.unsettled notice) (second.unsettled notice)
  returned takes calm := by
    rw [Pool.takes_append, Bool.and_eq_true, ← first.pool] at takes
    exact second.returned takes.2 fun notice member => calm notice (List.mem_append_right _ member)

theorem Passed.drop (first : Passed observer books (middle, some payload) calls notices)
    (connections : List Established) :
    Passed observer books (middle.drop connections, some payload) calls notices where
  toChangedBy := by
    have dropped := first.toChangedBy.trans (changedBy_drop observer middle connections)
    rwa [List.append_nil, List.append_nil] at dropped
  unsettled := first.unsettled
  returned := first.returned

theorem passed_nil (observer : Observer) (books : Books) :
    Passed observer books (books, none) [] [] where
  toChangedBy := .refl observer books
  unsettled _ member := by cases member
  returned _ _ := rfl

theorem passed_call (observer : Observer) (books : Books) (call : PoolCall) :
    Passed observer books (books.call call) [call] [] where
  toChangedBy := changedBy_call observer books call
  unsettled _ member := by cases member
  returned takes _ := by
    rw [Pool.takes, Bool.and_eq_true, Option.isNone_iff_eq_none] at takes
    exact takes.1

theorem passed_emit (notice : Notice) (unsettled : notice.settled? = none) :
    Passed observer books (books.emit observer notice) [] [notice] where
  toChangedBy := changedBy_emit observer books notice
  unsettled _ member := List.mem_singleton.1 member ▸ unsettled
  returned _ calm := calm notice List.mem_cons_self

theorem passed_acceptAll (observer : Observer) (books : Books) (connections : List Established) :
    ∃ calls, Passed observer books (books.acceptAll connections) calls [] := by
  induction connections generalizing books with
  | nil => exact ⟨[], passed_nil observer books⟩
  | cons established rest ih =>
    have call := passed_call observer books (.accept established.connection)
    rw [acceptAll]
    rcases h : books.call (.accept established.connection) with ⟨middle, _ | payload⟩
    · rw [h] at call
      obtain ⟨calls, passed⟩ := ih middle
      exact ⟨_, call.before passed⟩
    · rw [h] at call
      exact ⟨_, call.drop rest⟩

theorem passed_closeAll (observer : Observer) (books : Books) (connections : List Established) :
    ∃ calls notices, Passed observer books (books.closeAll observer connections) calls notices := by
  induction connections generalizing books with
  | nil => exact ⟨[], [], passed_nil observer books⟩
  | cons established rest ih =>
    have call := passed_call observer books (.close established.connection)
    rw [closeAll]
    rcases h : books.call (.close established.connection) with ⟨middle, _ | payload⟩
    · rw [h] at call
      have emit := call.before (passed_emit (.closed established.attempt) rfl)
      dsimp only
      rcases h' : middle.emit observer (.closed established.attempt) with ⟨later, _ | payload⟩
      · rw [h'] at emit
        obtain ⟨calls, notices, passed⟩ := ih later
        exact ⟨_, _, emit.before passed⟩
      · rw [h'] at emit
        exact ⟨_, _, emit.drop rest⟩
    · rw [h] at call
      exact ⟨_, _, call.drop rest⟩

theorem passed_conclude (notice : Notice) (unsettled : notice.settled? = none)
    (conclusion : Conclusion) (passed : Passed observer books result calls notices) :
    ∃ notices',
      ChangedBy observer books (conclude observer notice conclusion result).1 calls notices' ∧
      (∀ notice ∈ notices', notice.settled? = none) ∧
      (books.pool.takes calls = true → (∀ notice ∈ notices', observer.panic? notice = none) →
        (conclude observer notice conclusion result).2 = conclusion) := by
  obtain ⟨middle, _ | payload⟩ := result
  · have emit := passed.before (passed_emit notice unsettled)
    rw [List.append_nil] at emit
    refine ⟨_, ?_, emit.unsettled, fun takes calm => ?_⟩
    · rw [conclude]
      rcases h : middle.emit observer notice with ⟨later, _ | payload⟩ <;>
        simpa only [h] using emit.toChangedBy
    · have returned := emit.returned takes calm
      rw [conclude]
      rcases h : middle.emit observer notice with ⟨later, _ | payload⟩
      · rfl
      · rw [h] at returned
        cases returned
  · refine ⟨notices, passed.toChangedBy, passed.unsettled, fun takes calm => ?_⟩
    cases passed.returned takes calm

end Books

namespace Crew

theorem ending_returns (request : Request) (observer : Observer) (crew : Crew) (pool : Pool) :
    ∃ calls notices,
      Books.ChangedBy observer ⟨(crew.joined observer).log, pool⟩
        (crew.ending request observer pool).1 calls notices ∧
      (∀ notice ∈ notices, notice.settled? = none) ∧
      (pool.takes calls = true → (∀ notice ∈ notices, observer.panic? notice = none) →
        (crew.ending request observer pool).2.isReturn = true) := by
  unfold ending
  dsimp only
  generalize (crew.joined observer).arrivals.held.toList = connections
  split
  · obtain ⟨calls, notices, passed⟩ :=
      Books.passed_closeAll observer ⟨(crew.joined observer).log, pool⟩ connections
    obtain ⟨notices', changed, unsettled, concludes⟩ :=
      Books.passed_conclude (.failed _ _) rfl (.failed _) passed
    exact ⟨calls, notices', changed, unsettled, fun takes calm => by rw [concludes takes calm]; rfl⟩
  · obtain ⟨calls, passed⟩ :=
      Books.passed_acceptAll observer ⟨(crew.joined observer).log, pool⟩ connections
    obtain ⟨notices', changed, unsettled, concludes⟩ :=
      Books.passed_conclude (.succeeded _ _) rfl (.succeeded _) passed
    exact ⟨calls, notices', changed, unsettled, fun takes calm => by rw [concludes takes calm]; rfl⟩

variable {request : Request} {observer : Observer} {crew : Crew} {pool : Pool}

theorem settle_returns (faithful : crew.Faithful)
    (calm : (crew.settle request observer pool).1.log.Calm observer.handler) :
    (∃ notices,
        (crew.settle request observer pool).1.log.events =
          crew.log.events ++ observer.told notices ∧
        ∀ notice ∈ notices, observer.panic? notice = none) ∧
      (pool.takes (crew.settle request observer pool).1.log.poolCalls = true →
        (crew.settle request observer pool).2.2.isReturn = true) := by
  obtain ⟨calls, notices, changed, unsettled, returns⟩ := ending_returns request observer crew pool
  have events : (crew.settle request observer pool).1.log.events =
      crew.log.events ++ observer.told notices := by
    have := changed.events
    rw [show (crew.joined observer).log.events = crew.log.events by simp] at this
    exact this
  have poolCalls : (crew.settle request observer pool).1.log.poolCalls = calls := by
    have := changed.poolCalls
    rw [(faithful_joined faithful observer).untouched] at this
    exact this
  have returned : ∀ notice ∈ notices, observer.panic? notice = none := by
    refine Observer.calm_of_told fun event member => calm event ?_ ?_
    · rw [events]
      exact List.mem_append_right _ member
    · unfold Observer.told at member
      split at member
      · obtain ⟨notice, among, rfl⟩ := List.mem_map.1 member
        exact unsettled notice among
      · cases member
  rw [poolCalls]
  exact ⟨⟨notices, events, returned⟩, fun takes => returns takes returned⟩

end Crew

end Preconnect
