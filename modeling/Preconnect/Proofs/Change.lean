import Mathlib.Logic.Relation
import Preconnect.Crew.Turn
import Preconnect.Proofs.Account

/-!
All that one step can do to a crew, said once. Every law about crews that come about step by step,
in whatever order the workers take their steps, follows from what these changes preserve.
-/
namespace Preconnect

def Action.worker : Action → Nat
  | advance worker | finish worker _ | cancel worker => worker

@[simp] theorem Action.worker_advance (worker : Nat) : (advance worker).worker = worker := rfl

@[simp] theorem Action.worker_finish (worker : Nat) (outcome : Outcome) :
    (finish worker outcome).worker = worker := rfl

@[simp] theorem Action.worker_cancel (worker : Nat) : (cancel worker).worker = worker := rfl

namespace Crew

abbrev Supply := Nat → Outcome → Prop

def anything : Supply := fun _ _ => True

@[simp] theorem stages_setStage (crew : Crew) (worker : Nat) (stage : Stage) :
    (crew.setStage worker stage).stages = crew.stages.setIfInBounds worker stage := rfl

@[simp] theorem queue_setStage (crew : Crew) (worker : Nat) (stage : Stage) :
    (crew.setStage worker stage).queue = crew.queue := rfl

@[simp] theorem arrivals_setStage (crew : Crew) (worker : Nat) (stage : Stage) :
    (crew.setStage worker stage).arrivals = crew.arrivals := rfl

@[simp] theorem firstFailure_setStage (crew : Crew) (worker : Nat) (stage : Stage) :
    (crew.setStage worker stage).firstFailure = crew.firstFailure := rfl

@[simp] theorem calls_setStage (crew : Crew) (worker : Nat) (stage : Stage) :
    (crew.setStage worker stage).calls = crew.calls := rfl

@[simp] theorem log_setStage (crew : Crew) (worker : Nat) (stage : Stage) :
    (crew.setStage worker stage).log = crew.log := rfl

def gather {α : Type} (stages : Array Stage) (find : Stage → Option α) : List α :=
  stages.toList.filterMap find

theorem toList_setIfInBounds_split {stages : Array Stage} {worker : Nat} {old : Stage}
    (h : stages[worker]? = some old) (new : Stage) :
    ∃ before after, stages.toList = before ++ old :: after ∧
      (stages.setIfInBounds worker new).toList = before ++ new :: after := by
  obtain ⟨bound, rfl⟩ := Array.getElem?_eq_some_iff.1 h
  refine ⟨stages.toList.take worker, stages.toList.drop (worker + 1), ?_, ?_⟩
  · rw [← Array.getElem_toList, ← List.drop_eq_getElem_cons, List.take_append_drop]
  · rw [Array.toList_setIfInBounds, List.set_eq_take_append_cons_drop,
      if_pos (by simpa using bound)]

theorem count_gather_set {α : Type} [BEq α] {stages : Array Stage} {worker : Nat} {old : Stage}
    (h : stages[worker]? = some old) (new : Stage) (find : Stage → Option α) (a : α) :
    (gather (stages.setIfInBounds worker new) find).count a + (find old).toList.count a =
      (gather stages find).count a + (find new).toList.count a := by
  obtain ⟨before, after, split, changed⟩ := toList_setIfInBounds_split h new
  rw [gather, gather, changed, split]
  simp only [List.filterMap_append, List.filterMap_cons, List.count_append]
  cases find old <;> cases find new <;> simp [List.count_cons] <;> omega

attribute [simp] queue_record

@[simp] theorem stages_record (crew : Crew) (attempt : Nat) (result : Except Error Connection) :
    (crew.record attempt result).stages = crew.stages := by
  cases result <;> rfl

@[simp] theorem calls_record (crew : Crew) (attempt : Nat) (result : Except Error Connection) :
    (crew.record attempt result).calls = crew.calls := by
  cases result <;> rfl

@[simp] theorem log_record (crew : Crew) (attempt : Nat) (result : Except Error Connection) :
    (crew.record attempt result).log = crew.log := by
  cases result <;> rfl

/-- What becomes of all but the stages when a worker goes from one stage to another. -/
inductive Shift (observer : Observer) (supply : Supply) (crew : Crew) :
    Action → Stage → Stage → Crew → Prop
  | start {worker : Nat} :
    Shift observer supply crew (.advance worker) .fresh .idle
      { crew with log := observer.trace crew.log (.workerStarted worker) }
  | take {worker attempt : Nat} {queue : Queue}
      (taken : crew.queue.attempts = attempt :: queue.attempts) :
    Shift observer supply crew (.advance worker) .idle (.assigned attempt) { crew with queue }
  | stop {worker : Nat} (empty : crew.queue.attempts = []) :
    Shift observer supply crew (.advance worker) .idle (.ended .stopped)
      { crew with log := observer.trace crew.log (.workerStopped worker) }
  | begin {worker attempt : Nat} :
    Shift observer supply crew (.advance worker) (.assigned attempt) (.waiting attempt crew.calls)
      { crew with calls := crew.calls + 1, log := crew.log.add (.began worker attempt) }
  | finish {worker attempt call : Nat} {outcome : Outcome} (supplied : supply attempt outcome) :
    Shift observer supply crew (.finish worker outcome) (.waiting attempt call)
      (.settled attempt outcome.result) crew
  | record {worker attempt : Nat} {result : Except Error Connection} :
    Shift observer supply crew (.advance worker) (.settled attempt result)
      (.recorded attempt result)
      ({ crew with log := crew.log.add (.finished worker attempt result) }.record attempt result)
  | tell {worker attempt : Nat} {result : Except Error Connection}
      (returned : observer.panic? (.ofResult attempt result) = none) :
    Shift observer supply crew (.advance worker) (.recorded attempt result) .idle
      { crew with log := observer.emit crew.log (.ofResult attempt result) }
  | die {worker attempt : Nat} {result : Except Error Connection} {payload : Payload}
      (panicked : observer.panic? (.ofResult attempt result) = some payload) :
    Shift observer supply crew (.advance worker) (.recorded attempt result)
      (.ended (.panicked payload))
      { crew with log := observer.emit crew.log (.ofResult attempt result) }
  | abandon {worker attempt : Nat} {stage : Stage} (held : stage.held? = some attempt) :
    Shift observer supply crew (.cancel worker) stage (.ended .cancelled)
      { crew with log := crew.log.add (.abandoned worker attempt) }
  | leave {worker : Nat} {stage : Stage} (alive : stage.hasEnded = false)
      (free : stage.held? = none) :
    Shift observer supply crew (.cancel worker) stage (.ended .cancelled) crew

/-- What a step makes of a crew, if it is not in vain. -/
inductive Change (observer : Observer) (supply : Supply) (action : Action) (crew : Crew) :
    Crew → Prop
  | mk {old new : Stage} {shared : Crew} (here : crew.stages[action.worker]? = some old)
      (shift : Shift observer supply crew action old new shared) :
    Change observer supply action crew (shared.setStage action.worker new)

def Allows (supply : Supply) (crew : Crew) : Action → Prop
  | .finish worker outcome =>
    ∀ attempt call, crew.stages[worker]? = some (.waiting attempt call) → supply attempt outcome
  | .advance _ | .cancel _ => True

theorem allows_anything (crew : Crew) (action : Action) : Allows anything crew action := by
  cases action with
  | finish => exact fun _ _ _ => trivial
  | advance | cancel => trivial

variable {observer : Observer} {supply : Supply} {action : Action} {crew crew' shared : Crew}
  {worker other : Nat} {stage old new : Stage}

theorem Shift.stages (shift : Shift observer supply crew action old new shared) :
    shared.stages = crew.stages := by
  cases shift with
  | record => rw [stages_record]
  | start | take | stop | begin | finish | tell | die | abandon | leave => rfl

theorem Shift.alive (shift : Shift observer supply crew action old new shared) :
    old.hasEnded = false := by
  cases shift with
  | abandon held => cases old <;> first | rfl | cases held
  | leave alive => exact alive
  | start | take | stop | begin | finish | record | tell | die => rfl

theorem Change.stages_of_ne (change : Change observer supply action crew crew')
    (h : other ≠ action.worker) : crew'.stages[other]? = crew.stages[other]? := by
  obtain ⟨-, shift⟩ := change
  rw [stages_setStage, shift.stages, Array.getElem?_setIfInBounds_ne h.symm]

theorem Shift.arrives (shift : Shift observer supply crew action old new shared)
    (here : crew.stages[action.worker]? = some old) :
    (shared.setStage action.worker new).stages[action.worker]? = some new := by
  have bound : action.worker < crew.stages.size := (Array.getElem?_eq_some_iff.1 here).1
  rw [stages_setStage, shift.stages, Array.getElem?_setIfInBounds_self_of_lt bound]

theorem Change.acted (change : Change observer supply action crew crew')
    (here : crew'.stages[action.worker]? = some new) :
    ∃ old shared, crew.stages[action.worker]? = some old ∧
      Shift observer supply crew action old new shared ∧
      crew' = shared.setStage action.worker new := by
  obtain @⟨old, other, shared, before, shift⟩ := change
  rw [shift.arrives before] at here
  cases here
  exact ⟨old, shared, before, shift, rfl⟩

theorem Change.size_stages (change : Change observer supply action crew crew') :
    crew'.stages.size = crew.stages.size := by
  obtain ⟨-, shift⟩ := change
  rw [stages_setStage, shift.stages, Array.size_setIfInBounds]

theorem Change.ended {ending : Ending} (change : Change observer supply action crew crew')
    (h : crew.stages[other]? = some (.ended ending)) :
    crew'.stages[other]? = some (.ended ending) := by
  rw [change.stages_of_ne, h]
  rintro rfl
  obtain ⟨here, shift⟩ := change
  rw [h] at here
  cases here
  cases shift.alive

theorem advance_eq_or_change (h : crew.stages[worker]? = some stage) :
    crew.advance observer worker stage = crew ∨
      Change observer supply (.advance worker) crew (crew.advance observer worker stage) := by
  cases stage with
  | fresh => exact .inr ⟨h, .start⟩
  | idle =>
    cases hq : crew.queue.next? with
    | none =>
      simp only [advance, hq]
      exact .inr ⟨h, .stop (Queue.next?_eq_none_iff.1 hq)⟩
    | some taken =>
      simp only [advance, hq]
      exact .inr ⟨h, .take (Queue.next?_eq_some_iff.1 hq)⟩
  | assigned attempt => exact .inr ⟨h, .begin⟩
  | waiting => exact .inl rfl
  | settled attempt result => exact .inr ⟨h, .record⟩
  | recorded attempt result =>
    cases hp : observer.panic? (.ofResult attempt result) with
    | none =>
      simp only [advance, hp]
      exact .inr ⟨h, .tell hp⟩
    | some payload =>
      simp only [advance, hp]
      exact .inr ⟨h, .die hp⟩
  | ended => exact .inl rfl

theorem cancel_eq_or_change (h : crew.stages[worker]? = some stage) :
    crew.cancel worker stage = crew ∨
      Change observer supply (.cancel worker) crew (crew.cancel worker stage) := by
  cases stage with
  | ended => exact .inl rfl
  | fresh | idle | recorded => exact .inr ⟨h, .leave rfl rfl⟩
  | assigned | waiting | settled => exact .inr ⟨h, .abandon rfl⟩

/-- A step is in vain, or it is a change. -/
theorem step_eq_or_change (observer : Observer) (allowed : Allows supply crew action) :
    crew.step observer action = crew ∨
      Change observer supply action crew (crew.step observer action) := by
  cases action with
  | advance worker =>
    cases h : crew.stages[worker]? with
    | none => exact .inl (by simp only [step, h])
    | some stage =>
      simp only [step, h]
      exact advance_eq_or_change h
  | finish worker outcome =>
    cases h : crew.stages[worker]? with
    | none => exact .inl (by simp only [step, h])
    | some stage =>
      simp only [step, h]
      cases stage with
      | waiting attempt call => exact .inr ⟨h, .finish (allowed attempt call h)⟩
      | fresh | idle | assigned | settled | recorded | ended => exact .inl rfl
  | cancel worker =>
    cases h : crew.stages[worker]? with
    | none => exact .inl (by simp only [step, h])
    | some stage =>
      simp only [step, h]
      exact cancel_eq_or_change h

/-- The second crew comes from the first by steps of any workers in any order. -/
abbrev Reached (observer : Observer) (supply : Supply) : Crew → Crew → Prop :=
  Relation.ReflTransGen fun crew crew' => ∃ action, Change observer supply action crew crew'

variable {origin : Crew}

theorem reached_step (h : Reached observer supply origin crew)
    (allowed : Allows supply crew action) :
    Reached observer supply origin (crew.step observer action) := by
  rcases step_eq_or_change observer allowed with same | change
  · rw [same]
    exact h
  · exact h.tail ⟨_, change⟩

theorem stages_step_of_ne (h : other ≠ action.worker) :
    (crew.step observer action).stages[other]? = crew.stages[other]? := by
  rcases step_eq_or_change observer (allows_anything crew action) with same | change
  · rw [same]
  · exact change.stages_of_ne h

/-- What a list of steps leads to is reached by them, whatever attempts come to. -/
theorem reached_run (origin : Crew) (actions : List Action) :
    Reached observer anything origin (origin.run observer actions) := by
  induction actions generalizing origin with
  | nil => exact .refl
  | cons action rest ih =>
    have first : Reached observer anything origin (origin.step observer action) :=
      reached_step .refl (allows_anything origin action)
    exact first.trans (ih _)

theorem reached_invariant (holds : Crew → Prop)
    (keep : ∀ {action crew crew'}, Change observer supply action crew crew' → holds crew →
      holds crew')
    (h : Reached observer supply origin crew) (start : holds origin) : holds crew := by
  induction h with
  | refl => exact start
  | tail _ change ih =>
    obtain ⟨_, change⟩ := change
    exact keep change ih

end Crew

namespace Request

def started (request : Request) : Notice :=
  .started request.target request.effectiveWorkers request.failFast

def crew (request : Request) (observer : Observer) : Crew :=
  .ofCounts request.target.toNat request.effectiveWorkers.toNat
    (observer.emit {} request.started)

theorem fresh_of_crew {request : Request} {observer : Observer} {worker : Nat} {stage : Stage}
    (here : (request.crew observer).stages[worker]? = some stage) : stage = .fresh := by
  have member := Array.mem_of_getElem? here
  rw [crew, Crew.ofCounts, Array.mem_replicate] at member
  exact member.2

end Request

end Preconnect
