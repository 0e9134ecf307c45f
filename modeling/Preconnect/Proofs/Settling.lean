import Preconnect.Proofs.Joined

/-!
What a settlement writes: a call of the pool for each connection it comes to, in the order of
arrival, and a notice for each that was closed. It comes to all of them unless something panics.
-/
namespace Preconnect

def Pool.after (pool : Pool) (calls : List PoolCall) : Pool :=
  calls.foldl (fun pool call => (pool.call call).1) pool

theorem Pool.after_append (pool : Pool) (earlier later : List PoolCall) :
    pool.after (earlier ++ later) = (pool.after earlier).after later := List.foldl_append

namespace Established

def accept (established : Established) : PoolCall := .accept established.connection

def close (established : Established) : PoolCall := .close established.connection

def farewell (established : Established) : Notice := .closed established.attempt

end Established

namespace Crew

def ending (request : Request) (observer : Observer) (crew : Crew) (pool : Pool) :
    Books × Conclusion :=
  let joined := crew.joined observer
  let connections := joined.arrivals.held.toList
  let established := UInt32.ofNat connections.length
  match request.failFast, joined.firstFailure.kept with
  | true, some failure =>
    Books.conclude observer (.failed failure established) (.failed ⟨.warmupFailed failure⟩)
      (Books.closeAll observer ⟨joined.log, pool⟩ connections)
  | _, firstFailure =>
    Books.conclude observer (.succeeded established (request.target - established))
      (.succeeded ⟨established, request.target - established, firstFailure⟩)
      (Books.acceptAll ⟨joined.log, pool⟩ connections)

theorem settle_eq (request : Request) (observer : Observer) (crew : Crew) (pool : Pool) :
    crew.settle request observer pool =
      ({ crew.joined observer with
          arrivals := ⟨#[]⟩, log := (crew.ending request observer pool).1.log },
        (crew.ending request observer pool).1.pool, (crew.ending request observer pool).2) := rfl

end Crew

/-- What came of the books by calls of the pool and by notices. All that the log tells of the
attempts is left as it was. -/
structure Books.ChangedBy (observer : Observer) (books after : Books) (calls : List PoolCall)
    (notices : List Notice) : Prop where
  poolCalls : after.log.poolCalls = books.log.poolCalls ++ calls
  events : after.log.events = books.log.events ++ observer.told notices
  pool : after.pool = books.pool.after calls
  work : ∀ {α : Type} {find : Happening → Option α}, OfWork find →
    after.log.view find = books.log.view find

namespace Books

variable {observer : Observer} {books middle after : Books}

theorem ChangedBy.refl (observer : Observer) (books : Books) :
    ChangedBy observer books books [] [] :=
  ⟨by simp, by simp, rfl, fun _ => rfl⟩

theorem ChangedBy.trans {calls calls' : List PoolCall} {notices notices' : List Notice}
    (first : ChangedBy observer books middle calls notices)
    (second : ChangedBy observer middle after calls' notices') :
    ChangedBy observer books after (calls ++ calls') (notices ++ notices') where
  poolCalls := by rw [second.poolCalls, first.poolCalls, List.append_assoc]
  events := by rw [second.events, first.events, observer.told_append, List.append_assoc]
  pool := by rw [second.pool, first.pool, Pool.after_append]
  work := fun h => (second.work h).trans (first.work h)

theorem changedBy_call (observer : Observer) (books : Books) (call : PoolCall) :
    ChangedBy observer books (books.call call).1 [call] [] := by
  unfold Books.call
  refine ⟨?_, ?_, rfl, fun h => ?_⟩
  · dsimp only
    split <;> simp
  · dsimp only
    split <;> simp
  · dsimp only
    split <;> simp [h, h (.called call) rfl]

theorem changedBy_emit (observer : Observer) (books : Books) (notice : Notice) :
    ChangedBy observer books (books.emit observer notice).1 [] [notice] :=
  ⟨by simp [Books.emit], by simp [Books.emit], rfl, fun h => by simp [Books.emit, h]⟩

theorem changedBy_drop (observer : Observer) (books : Books) (connections : List Established) :
    ChangedBy observer books (books.drop connections) [] [] :=
  ⟨by simp [Books.drop], by simp [Books.drop], rfl, fun h => by simp [Books.drop, h]⟩

theorem acceptAll_spec (observer : Observer) (books : Books) (connections : List Established) :
    ∃ accepted, accepted <+: connections ∧
      ChangedBy observer books (books.acceptAll connections).1
        (accepted.map Established.accept) [] ∧
      ((books.acceptAll connections).2 = none → accepted = connections) := by
  induction connections generalizing books with
  | nil => exact ⟨[], List.prefix_rfl, .refl observer books, fun _ => rfl⟩
  | cons established rest ih =>
    have call := changedBy_call observer books (.accept established.connection)
    rw [acceptAll]
    rcases h : books.call (.accept established.connection) with ⟨middle, _ | payload⟩
    · rw [h] at call
      obtain ⟨accepted, part, changed, all⟩ := ih middle
      refine ⟨established :: accepted, List.cons_prefix_cons.2 ⟨rfl, part⟩, call.trans changed,
        fun returned => ?_⟩
      rw [all returned]
    · rw [h] at call
      refine ⟨[established], List.cons_prefix_cons.2 ⟨rfl, List.nil_prefix⟩,
        call.trans (changedBy_drop observer middle rest), ?_⟩
      simp

theorem closeAll_spec (observer : Observer) (books : Books) (connections : List Established) :
    ∃ closed told, closed <+: connections ∧ told <+: closed ∧
      ChangedBy observer books (books.closeAll observer connections).1
        (closed.map Established.close) (told.map Established.farewell) ∧
      ((books.closeAll observer connections).2 = none →
        closed = connections ∧ told = connections) := by
  induction connections generalizing books with
  | nil =>
    exact ⟨[], [], List.prefix_rfl, List.prefix_rfl, .refl observer books, fun _ => ⟨rfl, rfl⟩⟩
  | cons established rest ih =>
    have call := changedBy_call observer books (.close established.connection)
    rw [closeAll]
    rcases h : books.call (.close established.connection) with ⟨middle, _ | payload⟩
    · rw [h] at call
      have emit := call.trans (changedBy_emit observer middle (.closed established.attempt))
      dsimp only
      rcases h' : middle.emit observer (.closed established.attempt) with ⟨later, _ | payload⟩
      · rw [h'] at emit
        obtain ⟨closed, told, part, part', changed, all⟩ := ih later
        refine ⟨established :: closed, established :: told, List.cons_prefix_cons.2 ⟨rfl, part⟩,
          List.cons_prefix_cons.2 ⟨rfl, part'⟩, emit.trans changed, fun returned => ?_⟩
        obtain ⟨rfl, rfl⟩ := all returned
        exact ⟨rfl, rfl⟩
      · rw [h'] at emit
        refine ⟨[established], [established], List.cons_prefix_cons.2 ⟨rfl, List.nil_prefix⟩,
          List.prefix_rfl, emit.trans (changedBy_drop observer later rest), ?_⟩
        simp
    · rw [h] at call
      refine ⟨[established], [], List.cons_prefix_cons.2 ⟨rfl, List.nil_prefix⟩, List.nil_prefix,
        call.trans (changedBy_drop observer middle rest), ?_⟩
      simp

theorem conclude_spec {notice : Notice} {conclusion : Conclusion} {result : Books × Option Payload}
    {calls : List PoolCall} {notices : List Notice}
    (changed : ChangedBy observer books result.1 calls notices) :
    (∃ payload, (conclude observer notice conclusion result).2 = .panicked payload ∧
        ChangedBy observer books (conclude observer notice conclusion result).1 calls notices) ∨
      result.2 = none ∧
        ((conclude observer notice conclusion result).2 = conclusion ∨
          ∃ payload, (conclude observer notice conclusion result).2 = .panicked payload) ∧
        ChangedBy observer books (conclude observer notice conclusion result).1 calls
          (notices ++ [notice]) := by
  obtain ⟨middle, panic⟩ := result
  cases panic with
  | some payload => exact .inl ⟨payload, rfl, changed⟩
  | none =>
    have emit := changed.trans (changedBy_emit observer middle notice)
    rw [List.append_nil] at emit
    refine .inr ⟨rfl, ?_⟩
    rw [conclude]
    rcases h : middle.emit observer notice with ⟨later, _ | payload⟩
    · rw [h] at emit
      exact ⟨.inl rfl, emit⟩
    · rw [h] at emit
      exact ⟨.inr ⟨payload, rfl⟩, emit⟩

end Books

/-- What holds of a log lasts through all that is written in a settlement: calls, the ends of
connections, and those notices of which it tells. -/
structure Books.Lasting (observer : Observer) (tells : Notice → Prop) (holds : Log → Prop) :
    Prop where
  called : ∀ {log : Log} (call : PoolCall), holds log → holds (log.add (.called call))
  dropped : ∀ {log : Log} (connections : List Connection), holds log → holds (log.drop connections)
  told : ∀ {log : Log} {notice : Notice}, tells notice → holds log →
    holds (observer.emit log notice)

namespace Books

variable {observer : Observer} {tells : Notice → Prop} {holds : Log → Prop} {books : Books}

theorem Lasting.call (lasting : Lasting observer tells holds) (call : PoolCall)
    (h : holds books.log) : holds (books.call call).1.log := by
  unfold Books.call
  dsimp only
  split
  · exact lasting.dropped _ (lasting.called call h)
  · exact lasting.called call h

theorem Lasting.emit (lasting : Lasting observer tells holds) {notice : Notice}
    (bids : tells notice) (h : holds books.log) : holds (books.emit observer notice).1.log :=
  lasting.told bids h

theorem Lasting.acceptAll (lasting : Lasting observer tells holds)
    (connections : List Established) (h : holds books.log) :
    holds (books.acceptAll connections).1.log := by
  induction connections generalizing books with
  | nil => exact h
  | cons established rest ih =>
    have called := lasting.call (.accept established.connection) h
    rw [Books.acceptAll]
    rcases next : books.call (.accept established.connection) with ⟨middle, _ | payload⟩
    · rw [next] at called
      exact ih called
    · rw [next] at called
      exact lasting.dropped _ called

theorem Lasting.closeAll (lasting : Lasting observer tells holds)
    (bids : ∀ attempt, tells (.closed attempt)) (connections : List Established)
    (h : holds books.log) : holds (books.closeAll observer connections).1.log := by
  induction connections generalizing books with
  | nil => exact h
  | cons established rest ih =>
    have called := lasting.call (.close established.connection) h
    rw [Books.closeAll]
    rcases next : books.call (.close established.connection) with ⟨middle, _ | payload⟩
    · rw [next] at called
      have told := lasting.emit (bids established.attempt) called
      dsimp only
      rcases next' : middle.emit observer (.closed established.attempt) with ⟨later, _ | payload⟩
      · rw [next'] at told
        exact ih told
      · rw [next'] at told
        exact lasting.dropped _ told
    · rw [next] at called
      exact lasting.dropped _ called

theorem Lasting.conclude (lasting : Lasting observer tells holds) {notice : Notice}
    (ends : tells notice) (conclusion : Conclusion) {result : Books × Option Payload}
    (h : holds result.1.log) : holds (conclude observer notice conclusion result).1.log := by
  obtain ⟨middle, _ | payload⟩ := result
  · have told := lasting.emit ends h
    rw [Books.conclude]
    rcases next : middle.emit observer notice with ⟨later, _ | payload⟩ <;> rwa [next] at told
  · exact h

end Books

/-- How a settlement may go, with its calls of the pool, its notices and its conclusion. -/
inductive Course (request : Request) (connections : List Established) (kept : Option Failure) :
    List PoolCall → List Notice → Conclusion → Prop
  | closing {failure : Failure} {closed told : List Established} {payload : Payload}
      (strict : request.failFast = true) (failed : kept = some failure)
      (part : closed <+: connections) (part' : told <+: closed) :
    Course request connections kept (closed.map Established.close)
      (told.map Established.farewell) (.panicked payload)
  | failed {failure : Failure} {conclusion : Conclusion}
      (strict : request.failFast = true) (failed : kept = some failure)
      (concludes : conclusion = .failed ⟨.warmupFailed failure⟩ ∨
        ∃ payload, conclusion = .panicked payload) :
    Course request connections kept (connections.map Established.close)
      (connections.map Established.farewell ++
        [.failed failure (.ofNat connections.length)]) conclusion
  | accepting {accepted : List Established} {payload : Payload}
      (lenient : request.failFast = true → kept = none) (part : accepted <+: connections) :
    Course request connections kept (accepted.map Established.accept) [] (.panicked payload)
  | succeeded {conclusion : Conclusion} (lenient : request.failFast = true → kept = none)
      (concludes : conclusion = .succeeded ⟨.ofNat connections.length,
          request.target - .ofNat connections.length, kept⟩ ∨
        ∃ payload, conclusion = .panicked payload) :
    Course request connections kept (connections.map Established.accept)
      [.succeeded (.ofNat connections.length) (request.target - .ofNat connections.length)]
      conclusion

namespace Crew

variable {request : Request} {observer : Observer} {crew : Crew} {pool : Pool}

theorem ending_of_failure {failure : Failure} (strict : request.failFast = true)
    (failed : (crew.joined observer).firstFailure.kept = some failure) :
    crew.ending request observer pool =
      let connections := (crew.joined observer).arrivals.held.toList
      Books.conclude observer (.failed failure (.ofNat connections.length))
        (.failed ⟨.warmupFailed failure⟩)
        (Books.closeAll observer ⟨(crew.joined observer).log, pool⟩ connections) := by
  unfold ending
  simp only [strict, failed]

theorem ending_of_lenient
    (lenient : request.failFast = true → (crew.joined observer).firstFailure.kept = none) :
    crew.ending request observer pool =
      let connections := (crew.joined observer).arrivals.held.toList
      let established := UInt32.ofNat connections.length
      Books.conclude observer (.succeeded established (request.target - established))
        (.succeeded ⟨established, request.target - established,
          (crew.joined observer).firstFailure.kept⟩)
        (Books.acceptAll ⟨(crew.joined observer).log, pool⟩ connections) := by
  unfold ending
  dsimp only
  split
  · rename_i strict failed
    rw [lenient strict] at failed
    cases failed
  · rfl

variable (request observer crew pool)

theorem lasts_settle {tells : Notice → Prop} {holds : Log → Prop}
    (lasting : Books.Lasting observer tells holds) (bids : ∀ attempt, tells (.closed attempt))
    (fails : ∀ failure closed, tells (.failed failure closed))
    (succeeds : ∀ established failed, tells (.succeeded established failed))
    (h : holds (crew.joined observer).log) :
    holds (crew.settle request observer pool).1.log := by
  rw [settle_eq]
  unfold ending
  dsimp only
  generalize (crew.joined observer).arrivals.held.toList = connections
  split
  · exact lasting.conclude (fails _ _) _ (lasting.closeAll bids connections h)
  · exact lasting.conclude (succeeds _ _) _ (lasting.acceptAll connections h)

/-- A settlement takes one of the courses, and writes what belongs to it. -/
theorem ending_course :
    ∃ calls notices,
      Course request (crew.joined observer).arrivals.held.toList
        (crew.joined observer).firstFailure.kept calls notices
        (crew.ending request observer pool).2 ∧
      Books.ChangedBy observer ⟨(crew.joined observer).log, pool⟩
        (crew.ending request observer pool).1 calls notices := by
  by_cases lenient : request.failFast = true → (crew.joined observer).firstFailure.kept = none
  · rw [ending_of_lenient lenient]
    generalize (crew.joined observer).arrivals.held.toList = connections
    obtain ⟨accepted, part, changed, all⟩ :=
      Books.acceptAll_spec observer ⟨(crew.joined observer).log, pool⟩ connections
    rcases Books.conclude_spec changed with ⟨payload, concludes, wrote⟩ |
      ⟨returned, concludes, wrote⟩
    · exact ⟨_, _, concludes ▸ .accepting lenient part, wrote⟩
    · cases all returned
      exact ⟨_, _, .succeeded lenient concludes, wrote⟩
  · obtain ⟨strict, kept⟩ := Classical.not_imp.1 lenient
    obtain ⟨failure, failed⟩ := Option.ne_none_iff_exists'.1 kept
    rw [ending_of_failure strict failed]
    generalize (crew.joined observer).arrivals.held.toList = connections
    obtain ⟨closed, told, part, part', changed, all⟩ :=
      Books.closeAll_spec observer ⟨(crew.joined observer).log, pool⟩ connections
    rcases Books.conclude_spec changed with ⟨payload, concludes, wrote⟩ |
      ⟨returned, concludes, wrote⟩
    · exact ⟨_, _, concludes ▸ .closing strict failed part part', wrote⟩
    · obtain ⟨rfl, rfl⟩ := all returned
      exact ⟨_, _, .failed strict failed concludes, wrote⟩

variable {request observer crew pool}

theorem view_settle {α : Type} {find : Happening → Option α} (h : OfWork find) :
    (crew.settle request observer pool).1.log.view find = (crew.joined observer).log.view find := by
  obtain ⟨calls, notices, -, wrote⟩ := ending_course request observer crew pool
  rw [settle_eq]
  exact wrote.work h

theorem view_settle_of_none {α : Type} {find : Happening → Option α} (h : OfWork find)
    (unfound : ∀ attempt, find (.neverRun attempt) = none) :
    (crew.settle request observer pool).1.log.view find = crew.log.view find := by
  rw [view_settle h, view_joined observer crew h.untraced]
  simp [unfound]

variable (request observer crew pool)

theorem established_settle :
    (crew.settle request observer pool).1.log.established = crew.log.established :=
  view_settle_of_none ofWork_established? fun _ => rfl

theorem settle_course (h : crew.Faithful) :
    let settled := crew.settle request observer pool
    ∃ notices,
      Course request crew.log.established settled.1.firstFailure.kept
        settled.1.log.poolCalls notices settled.2.2 ∧
      settled.1.log.events = crew.log.events ++ observer.told notices ∧
      settled.2.1 = pool.after settled.1.log.poolCalls := by
  intro settled
  obtain ⟨calls, notices, course, wrote⟩ := ending_course request observer crew pool
  have joined := faithful_joined h observer
  have poolCalls : settled.1.log.poolCalls = calls := by
    have := wrote.poolCalls
    rw [joined.untouched] at this
    exact this
  refine ⟨notices, ?_, ?_, ?_⟩
  · rw [poolCalls, ← h.arrivals, ← arrivals_joined observer crew]
    exact course
  · have := wrote.events
    rw [show (crew.joined observer).log.events = crew.log.events by simp] at this
    exact this
  · rw [poolCalls]
    exact wrote.pool

end Crew

end Preconnect
