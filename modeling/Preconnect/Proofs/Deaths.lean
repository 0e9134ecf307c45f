import Preconnect.Proofs.Growth
import Preconnect.Proofs.Returning

/-!
Deaths of workers. A worker passes an event to the handler only after it has recorded the result of
its attempt, so that a panic of the handler costs the worker but not the attempt. Panics and the
workers that they end belong together one to one.
-/
namespace Preconnect

namespace Log

def Precedes (log : Log) (first second : Happening) : Prop :=
  ∃ front, first ∈ front ∧ front ++ [second] <+: log.toList

theorem Precedes.grows {log later : Log} {first second : Happening}
    (precedes : log.Precedes first second) (grows : log.Grows later) :
    later.Precedes first second := by
  obtain ⟨front, member, part⟩ := precedes
  exact ⟨front, member, part.trans grows⟩

def panics (handler : Option Handler) (log : Log) : List Event :=
  log.events.filter fun event => (event.panic? handler).isSome

end Log

namespace Observer

variable {observer : Observer} {log : Log} {notice : Notice}

theorem precedes_emit {happening : Happening} (wants : observer.wantsEvents = true)
    (before : happening ∈ log.toList) :
    (observer.emit log notice).Precedes happening (.emitted (observer.event notice)) := by
  refine ⟨(observer.trace log (observer.event notice).record).toList,
    (observer.grows_trace log _).subset before, [], ?_⟩
  rw [List.append_nil, emit, if_pos wants, Log.toList_add]

theorem panics_told {notices : List Notice}
    (calm : ∀ notice ∈ notices, observer.panic? notice = none) :
    ((observer.told notices).filter fun event => (event.panic? observer.handler).isSome) = [] := by
  unfold told
  split
  · rw [List.filter_eq_nil_iff]
    intro event member
    obtain ⟨notice, among, rfl⟩ := List.mem_map.1 member
    have returned : (observer.event notice).panic? observer.handler = none := calm notice among
    simp [returned]
  · rfl

theorem panics_emit (returned : observer.panic? notice = none) :
    (observer.emit log notice).panics observer.handler = log.panics observer.handler := by
  rw [Log.panics, Log.events, events_emit, List.filter_append, panics_told (by simp [returned]),
    List.append_nil]
  rfl

end Observer

/-- The workers that panics of the handler have ended, each with the event that it died of. -/
structure Deaths (handler : Option Handler) (log : Log) (stages : Array Stage)
    (deaths : List (Nat × Event)) : Prop where
  events : deaths.map (·.2) = log.panics handler
  workers : (deaths.map (·.1)).Nodup
  all : ∀ (worker : Nat) (payload : Payload),
    stages[worker]? = some (.ended (.panicked payload)) → worker ∈ deaths.map (·.1)
  /-- The worker has ended with the payload, and had recorded the result that the event tells. -/
  each : ∀ death ∈ deaths, ∃ attempt result payload,
    death.2.notice = .ofResult attempt result ∧ death.2.panic? handler = some payload ∧
      stages[death.1]? = some (.ended (.panicked payload)) ∧
      log.Precedes (.finished death.1 attempt result) (.emitted death.2)

section
variable {handler : Option Handler} {log later : Log} {stages stages' : Array Stage}
  {deaths : List (Nat × Event)}

theorem Deaths.keep (h : Deaths handler log stages deaths) (grows : log.Grows later)
    (calm : later.panics handler = log.panics handler)
    (ends : ∀ (worker : Nat) (payload : Payload),
      stages'[worker]? = some (.ended (.panicked payload)) ↔
        stages[worker]? = some (.ended (.panicked payload))) :
    Deaths handler later stages' deaths where
  events := h.events.trans calm.symm
  workers := h.workers
  all worker payload here := h.all worker payload ((ends worker payload).1 here)
  each death member := by
    obtain ⟨attempt, result, payload, tells, panicked, ended, precedes⟩ := h.each death member
    exact ⟨attempt, result, payload, tells, panicked, (ends _ _).2 ended, precedes.grows grows⟩

theorem Deaths.concat {worker attempt : Nat} {result : Except Error Connection} {payload : Payload}
    {event : Event} (h : Deaths handler log stages deaths) (grows : log.Grows later)
    (alive : ∀ payload, stages[worker]? ≠ some (.ended (.panicked payload)))
    (bound : worker < stages.size) (panics : later.panics handler = log.panics handler ++ [event])
    (tells : event.notice = .ofResult attempt result)
    (panicked : event.panic? handler = some payload)
    (precedes : later.Precedes (.finished worker attempt result) (.emitted event)) :
    Deaths handler later (stages.setIfInBounds worker (.ended (.panicked payload)))
      (deaths ++ [(worker, event)]) where
  events := by rw [List.map_append, h.events, panics, List.map_singleton]
  workers := by
    rw [List.map_append, List.map_singleton, List.nodup_append]
    refine ⟨h.workers, by simp, fun dead member other last => ?_⟩
    rw [List.mem_singleton.1 last]
    rintro rfl
    obtain ⟨death, among, rfl⟩ := List.mem_map.1 member
    obtain ⟨_, _, payload, -, -, ended, -⟩ := h.each death among
    exact alive payload ended
  all other payload here := by
    rw [List.map_append, List.mem_append]
    by_cases same : other = worker
    · exact .inr (by simp [same])
    · rw [Array.getElem?_setIfInBounds_ne (Ne.symm same)] at here
      exact .inl (h.all other payload here)
  each death member := by
    rcases List.mem_append.1 member with among | last
    · obtain ⟨attempt, result, payload, tells, panicked, ended, precedes⟩ := h.each death among
      refine ⟨attempt, result, payload, tells, panicked, ?_, precedes.grows grows⟩
      rw [Array.getElem?_setIfInBounds_ne, ended]
      rintro rfl
      exact alive payload ended
    · rw [List.mem_singleton.1 last]
      exact ⟨attempt, result, payload, tells, panicked, by simp [bound], precedes⟩

end

namespace Crew

variable {request : Request} {observer : Observer} {supply : Supply} {action : Action}
  {crew crew' shared : Crew} {old new : Stage}

def Recorded (crew : Crew) : Prop :=
  ∀ (worker attempt : Nat) (result : Except Error Connection),
    crew.stages[worker]? = some (.recorded attempt result) →
      .finished worker attempt result ∈ crew.log.toList

theorem recorded_change (change : Change observer supply action crew crew') (h : crew.Recorded) :
    crew'.Recorded := by
  intro other attempt result here
  by_cases same : other = action.worker
  · rw [same] at here
    obtain ⟨old, shared, -, shift, rfl⟩ := change.acted here
    cases shift with
    | record => simp [same]
  · rw [change.stages_of_ne same] at here
    exact (grows_change change).subset (h other attempt result here)

theorem panicked_iff (shift : Shift observer supply crew action old new shared)
    (here : crew.stages[action.worker]? = some old)
    (survives : ∀ payload, new ≠ .ended (.panicked payload)) (other : Nat) (payload : Payload) :
    (shared.setStage action.worker new).stages[other]? = some (.ended (.panicked payload)) ↔
      crew.stages[other]? = some (.ended (.panicked payload)) := by
  have hw : action.worker < crew.stages.size := (Array.getElem?_eq_some_iff.1 here).1
  rw [stages_setStage, shift.stages]
  by_cases same : other = action.worker
  · subst same
    rw [Array.getElem?_setIfInBounds_self_of_lt hw, here, Option.some.injEq, Option.some.injEq]
    refine iff_of_false (survives payload) ?_
    rintro rfl
    cases shift.alive
  · rw [Array.getElem?_setIfInBounds_ne (Ne.symm same)]

theorem deaths_change (change : Change observer supply action crew crew')
    (recorded : crew.Recorded)
    (h : ∃ deaths, Deaths observer.handler crew.log crew.stages deaths) :
    ∃ deaths, Deaths observer.handler crew'.log crew'.stages deaths := by
  obtain ⟨deaths, h⟩ := h
  have grows := grows_change change
  obtain @⟨old, new, shared, here, shift⟩ := change
  have ends := panicked_iff shift here
  cases shift with
  | @die worker attempt result payload panicked =>
    have wants := Observer.wantsEvents_of_panic panicked
    have fatal : (observer.event (.ofResult attempt result)).panic? observer.handler =
      some payload := panicked
    refine ⟨_, h.concat grows (fun payload dead => ?_) (Array.getElem?_eq_some_iff.1 here).1 ?_ rfl
      fatal (Observer.precedes_emit wants (recorded worker attempt result here))⟩
    · cases here.symm.trans dead
    · rw [Log.panics, Log.events, log_setStage, Observer.events_emit, List.filter_append,
        Observer.told, if_pos wants, List.map_singleton, List.filter_singleton, fatal]
      rfl
  | tell returned =>
    exact ⟨deaths, h.keep grows (Observer.panics_emit returned) (ends fun _ => by simp)⟩
  | start | take | stop | begin | finish | record | abandon | leave =>
    exact ⟨deaths, h.keep grows (by simp [Log.panics]) (ends fun _ => by simp)⟩

theorem deaths_reached (returned : observer.panic? request.started = none)
    (h : Reached observer supply (request.crew observer) crew) :
    ∃ deaths, Deaths observer.handler crew.log crew.stages deaths := by
  refine (reached_invariant (fun crew => crew.Recorded ∧
    ∃ deaths, Deaths observer.handler crew.log crew.stages deaths) (fun change ih =>
      ⟨recorded_change change ih.1, deaths_change change ih.1 ih.2⟩) h ⟨?_, [], ?_⟩).2
  · intro worker attempt result here
    cases Request.fresh_of_crew here
  · refine ⟨?_, .nil, fun worker payload here => (by cases Request.fresh_of_crew here),
      fun _ member => by cases member⟩
    rw [Log.panics, Request.crew, ofCounts, Log.events, Observer.events_emit, Log.view_empty,
      List.nil_append, Observer.panics_told (by simp [returned])]
    rfl

theorem deaths_settle {deaths : List (Nat × Event)} (faithful : crew.Faithful) {pool : Pool}
    (calm : (crew.settle request observer pool).1.log.Calm observer.handler)
    (h : Deaths observer.handler crew.log crew.stages deaths) :
    let settled := (crew.settle request observer pool).1
    Deaths observer.handler settled.log settled.stages deaths := by
  intro settled
  obtain ⟨⟨notices, events, returned⟩, -⟩ := settle_returns faithful calm
  refine h.keep (grows_settle request observer crew pool) ?_ fun _ _ => by rw [stages_settle]
  rw [Log.panics, events, List.filter_append, Observer.panics_told returned, List.append_nil]
  rfl

end Crew

end Preconnect
