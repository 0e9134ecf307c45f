import Preconnect.Proofs.Labor
import Preconnect.Proofs.Matching

/-!
Crews whose attempts come to different results. Behind a veil over the results in question two such
crews look the same, as no worker looks at a result: it records it, tells of it, and takes the next
attempt.
-/
namespace Preconnect

def veil (hidden : Nat → Bool) (attempt : Nat) (result : Except Error Connection) :
    Except Error Connection :=
  if hidden attempt then .error .neverRun else result

def Outcome.Alike (hidden : Nat → Bool) (attempt : Nat) (outcome outcome' : Outcome) : Prop :=
  hidden attempt = false → outcome' = outcome

theorem Outcome.Alike.veil {hidden : Nat → Bool} {attempt : Nat} {outcome outcome' : Outcome}
    (alike : Alike hidden attempt outcome outcome') :
    Preconnect.veil hidden attempt outcome'.result =
      Preconnect.veil hidden attempt outcome.result := by
  unfold Preconnect.veil
  cases looked : hidden attempt with
  | true => rfl
  | false => rw [alike looked]

def Plan.Alike (hidden : Nat → Bool) (plan plan' : Plan) : Prop :=
  ∀ attempt, Option.Rel (Outcome.Alike hidden attempt) (plan attempt) (plan' attempt)

inductive Step.Alike (hidden : Nat → Bool) : Step → Step → Prop
  | finish {items items' : List (Nat × Outcome)}
      (same : List.Forall₂ (fun item item' =>
        item'.1 = item.1 ∧ Outcome.Alike hidden item.1 item.2 item'.2) items items') :
    Alike hidden (finish items) (finish items')
  | finishAll {outcome outcome' : Nat → Outcome}
      (same : ∀ attempt, Outcome.Alike hidden attempt (outcome attempt) (outcome' attempt)) :
    Alike hidden (finishAll outcome) (finishAll outcome')
  | wait : Alike hidden wait wait
  | cancel : Alike hidden cancel cancel
  | shutdown : Alike hidden shutdown shutdown
  | receive (count : Nat) : Alike hidden (receive count) (receive count)
  | closeReceiver : Alike hidden closeReceiver closeReceiver

/-- The actions are the same, unless they end an attempt that is not looked at. -/
inductive Action.Alike (hidden : Nat → Bool) (crew : Crew) : Action → Action → Prop
  | advance (worker : Nat) : Alike hidden crew (advance worker) (advance worker)
  | cancel (worker : Nat) : Alike hidden crew (cancel worker) (cancel worker)
  | finish {worker : Nat} {outcome outcome' : Outcome}
      (same : ∀ attempt call, crew.stages[worker]? = some (.waiting attempt call) →
        Outcome.Alike hidden attempt outcome outcome') :
    Alike hidden crew (finish worker outcome) (finish worker outcome')

def Stage.veiled (hidden : Nat → Bool) : Stage → Stage
  | settled attempt result => settled attempt (veil hidden attempt result)
  | recorded attempt result => recorded attempt (veil hidden attempt result)
  | fresh => fresh
  | idle => idle
  | assigned attempt => assigned attempt
  | waiting attempt call => waiting attempt call
  | ended ending => ended ending

@[simp] theorem hasEnded_veiled (hidden : Nat → Bool) (stage : Stage) :
    (stage.veiled hidden).hasEnded = stage.hasEnded := by
  cases stage <;> rfl

@[simp] theorem inFlight?_veiled (hidden : Nat → Bool) (stage : Stage) :
    (stage.veiled hidden).inFlight? = stage.inFlight? := by
  cases stage <;> rfl

def Happening.veiled? (hidden : Nat → Bool) : Happening → Option Happening
  | finished worker attempt result => some (finished worker attempt (veil hidden attempt result))
  | began worker attempt => some (began worker attempt)
  | abandoned worker attempt => some (abandoned worker attempt)
  | neverRun attempt => some (neverRun attempt)
  | traced _ | emitted _ | called _ | dropped _ => none

attribute [simp] Happening.veiled?

@[simp] theorem ofWork_veiled? (hidden : Nat → Bool) : OfWork (Happening.veiled? hidden) := by
  rintro (_ | _) <;> simp

namespace Crew

inductive Lookalike (hidden : Nat → Bool) : Stage → Stage → Prop
  | fresh : Lookalike hidden .fresh .fresh
  | idle : Lookalike hidden .idle .idle
  | assigned (attempt : Nat) : Lookalike hidden (.assigned attempt) (.assigned attempt)
  | waiting (attempt call : Nat) : Lookalike hidden (.waiting attempt call) (.waiting attempt call)
  | settled {attempt : Nat} {result result' : Except Error Connection}
      (same : veil hidden attempt result' = veil hidden attempt result) :
    Lookalike hidden (.settled attempt result) (.settled attempt result')
  | recorded {attempt : Nat} {result result' : Except Error Connection}
      (same : veil hidden attempt result' = veil hidden attempt result) :
    Lookalike hidden (.recorded attempt result) (.recorded attempt result')
  | ended (ending : Ending) : Lookalike hidden (.ended ending) (.ended ending)

theorem lookalike_of_veiled {hidden : Nat → Bool} {stage stage' : Stage}
    (same : stage'.veiled hidden = stage.veiled hidden) : Lookalike hidden stage stage' := by
  cases stage <;> cases stage' <;> injection same <;> subst_vars <;> constructor <;> assumption

/-- Crews that differ in the results of attempts that are not looked at. The same is in their
queues, and the same work is behind them; arrivals and first failures may differ, as workers only
add to them. -/
structure SameBut (hidden : Nat → Bool) (crew crew' : Crew) : Prop where
  queue : crew'.queue = crew.queue
  calls : crew'.calls = crew.calls
  stages : crew'.stages.map (Stage.veiled hidden) = crew.stages.map (Stage.veiled hidden)
  work : crew'.log.view (Happening.veiled? hidden) = crew.log.view (Happening.veiled? hidden)

inductive ActionsSameBut (hidden : Nat → Bool) (observer : Observer) :
    Crew → List Action → List Action → Prop
  | nil (crew : Crew) : ActionsSameBut hidden observer crew [] []
  | cons {crew : Crew} {action action' : Action} {rest rest' : List Action}
      (first : action.Alike hidden crew action')
      (others : ActionsSameBut hidden observer (crew.step observer action) rest rest') :
    ActionsSameBut hidden observer crew (action :: rest) (action' :: rest')

variable {hidden : Nat → Bool} {observer : Observer} {plan plan' : Plan} {crew crew' : Crew}
  {worker : Nat} {stage stage' : Stage}

theorem SameBut.refl (crew : Crew) : SameBut hidden crew crew := ⟨rfl, rfl, rfl, rfl⟩

theorem SameBut.lookalike (h : SameBut hidden crew crew')
    (here : crew.stages[worker]? = some stage) :
    ∃ stage', crew'.stages[worker]? = some stage' ∧ Lookalike hidden stage stage' := by
  have same := congrArg (·[worker]?) h.stages
  simp only [Array.getElem?_map, here, Option.map_some] at same
  obtain ⟨stage', here', looks⟩ := Option.map_eq_some_iff.1 same
  exact ⟨stage', here', lookalike_of_veiled looks⟩

theorem SameBut.absent (h : SameBut hidden crew crew') (absent : crew.stages[worker]? = none) :
    crew'.stages[worker]? = none := by
  have same := congrArg (·[worker]?) h.stages
  simpa only [Array.getElem?_map, absent, Option.map_none, Option.map_eq_none_iff] using same

theorem SameBut.size_stages (h : SameBut hidden crew crew') :
    crew'.stages.size = crew.stages.size := by
  have same := congrArg Array.size h.stages
  rwa [Array.size_map, Array.size_map] at same

theorem SameBut.isOver (h : SameBut hidden crew crew') : crew'.isOver = crew.isOver := by
  have looks (stages : Array Stage) :
      stages.all Stage.hasEnded = (stages.map (Stage.veiled hidden)).all Stage.hasEnded := by
    rw [Array.all_map]
    congr 1
    funext stage
    exact (hasEnded_veiled hidden stage).symm
  rw [Crew.isOver, looks, h.stages, ← looks, Crew.isOver]

theorem SameBut.inFlight (h : SameBut hidden crew crew') : crew'.inFlight = crew.inFlight := by
  have looks (stages : Array Stage) : stages.toList.filterMap Stage.inFlight? =
      (stages.map (Stage.veiled hidden)).toList.filterMap Stage.inFlight? := by
    rw [Array.toList_map, List.filterMap_map]
    exact List.filterMap_congr fun stage _ => (inFlight?_veiled hidden stage).symm
  rw [Crew.inFlight, looks, h.stages, ← looks, Crew.inFlight]

theorem SameBut.workerOf? (h : SameBut hidden crew crew') (attempt : Nat) :
    crew'.workerOf? attempt = crew.workerOf? attempt := by
  have looks (stages : Array Stage) :
      (stages.findIdx? fun stage => stage.inFlight? == some attempt) =
        (stages.map (Stage.veiled hidden)).findIdx? fun stage =>
          stage.inFlight? == some attempt := by
    rw [Array.findIdx?_map]
    congr 1
    funext stage
    rw [Function.comp_apply, inFlight?_veiled]
  rw [Crew.workerOf?, looks, h.stages, ← looks, Crew.workerOf?]

theorem SameBut.setStage {shared shared' : Crew} (h : SameBut hidden shared shared')
    (looks : Lookalike hidden stage stage') (worker : Nat) :
    SameBut hidden (shared.setStage worker stage) (shared'.setStage worker stage') := by
  have same : stage'.veiled hidden = stage.veiled hidden := by
    cases looks with
    | settled same | recorded same => simp only [Stage.veiled, same]
    | fresh | idle | assigned | waiting | ended => rfl
  refine ⟨h.queue, h.calls, ?_, h.work⟩
  rw [stages_setStage, stages_setStage, Array.map_setIfInBounds, Array.map_setIfInBounds, same,
    h.stages]

theorem SameBut.logs (h : SameBut hidden crew crew') {log log' : Log}
    (same : log'.view (Happening.veiled? hidden) = log.view (Happening.veiled? hidden)) :
    SameBut hidden { crew with log } { crew' with log := log' } :=
  ⟨h.queue, h.calls, h.stages, same⟩

theorem SameBut.record (h : SameBut hidden crew crew') (attempt : Nat)
    (result result' : Except Error Connection) :
    SameBut hidden (crew.record attempt result) (crew'.record attempt result') := by
  refine ⟨?_, ?_, ?_, ?_⟩
  · rw [queue_record, queue_record, h.queue]
  · rw [calls_record, calls_record, h.calls]
  · rw [stages_record, stages_record, h.stages]
  · rw [log_record, log_record, h.work]

theorem SameBut.advance (h : SameBut hidden crew crew') (looks : Lookalike hidden stage stage')
    (worker : Nat)
    (quiet : (crew.advance observer worker stage).log.Harmless observer.handler)
    (quiet' : (crew'.advance observer worker stage').log.Harmless observer.handler) :
    SameBut hidden (crew.advance observer worker stage)
      (crew'.advance observer worker stage') := by
  cases looks with
  | fresh => exact (h.logs (by simp [h.work])).setStage .idle worker
  | idle =>
    have same : crew'.queue.next? = crew.queue.next? := by rw [h.queue]
    simp only [Crew.advance, same]
    cases crew.queue.next? with
    | none =>
      refine (h.logs ?_).setStage (.ended .stopped) worker
      simp [h.work]
    | some taken =>
      have took : SameBut hidden { crew with queue := taken.2 } { crew' with queue := taken.2 } :=
        ⟨rfl, h.calls, h.stages, h.work⟩
      exact took.setStage (.assigned taken.1) worker
  | assigned attempt =>
    simp only [Crew.advance, h.calls]
    have began : SameBut hidden
        { crew with calls := crew.calls + 1, log := crew.log.add (.began worker attempt) }
        { crew' with calls := crew.calls + 1, log := crew'.log.add (.began worker attempt) } :=
      ⟨h.queue, rfl, h.stages, by simp [h.work]⟩
    exact began.setStage (.waiting attempt crew.calls) worker
  | settled same =>
    refine ((h.logs ?_).record _ _ _).setStage (.recorded same) worker
    simp [h.work, same]
  | recorded same =>
    have returned := Log.Harmless.returned quiet
    have returned' := Log.Harmless.returned quiet'
    simp only [Crew.advance, returned, returned']
    exact (h.logs (by simp [h.work])).setStage .idle worker
  | waiting | ended => exact h

theorem SameBut.finish {outcome outcome' : Outcome} (h : SameBut hidden crew crew')
    (alike : ∀ attempt call, crew.stages[worker]? = some (.waiting attempt call) →
      Outcome.Alike hidden attempt outcome outcome') :
    SameBut hidden (crew.step observer (.finish worker outcome))
      (crew'.step observer (.finish worker outcome')) := by
  cases here : crew.stages[worker]? with
  | none =>
    simp only [step, here, h.absent here]
    exact h
  | some stage =>
    obtain ⟨stage', here', looks⟩ := h.lookalike here
    simp only [step, here, here']
    cases looks with
    | waiting attempt call => exact h.setStage (.settled (alike attempt call here).veil) worker
    | fresh | idle | assigned | settled | recorded | ended => exact h

theorem SameBut.cancel (h : SameBut hidden crew crew') (worker : Nat) :
    SameBut hidden (crew.step observer (.cancel worker))
      (crew'.step observer (.cancel worker)) := by
  cases here : crew.stages[worker]? with
  | none =>
    simp only [step, here, h.absent here]
    exact h
  | some stage =>
    obtain ⟨stage', here', looks⟩ := h.lookalike here
    simp only [step, here, here']
    cases looks with
    | ended => exact h
    | fresh | idle | recorded => exact (h.logs h.work).setStage (.ended _) worker
    | assigned | waiting | settled =>
      refine (h.logs ?_).setStage (.ended _) worker
      simp [Stage.held?, h.work]

/-- Actions that are alike bring no new difference between the crews. -/
theorem SameBut.step {action action' : Action} (h : SameBut hidden crew crew')
    (alike : action.Alike hidden crew action')
    (quiet : (crew.step observer action).log.Harmless observer.handler)
    (quiet' : (crew'.step observer action').log.Harmless observer.handler) :
    SameBut hidden (crew.step observer action) (crew'.step observer action') := by
  cases alike with
  | cancel worker => exact h.cancel worker
  | finish same => exact h.finish same
  | advance worker =>
    cases here : crew.stages[worker]? with
    | none =>
      simp only [Crew.step, here, h.absent here]
      exact h
    | some stage =>
      obtain ⟨stage', here', looks⟩ := h.lookalike here
      simp only [Crew.step, here, here'] at quiet quiet' ⊢
      exact h.advance looks worker quiet quiet'

theorem SameBut.run {actions actions' : List Action} (h : SameBut hidden crew crew')
    (both : ActionsSameBut hidden observer crew actions actions')
    (quiet : (crew.run observer actions).log.Harmless observer.handler)
    (quiet' : (crew'.run observer actions').log.Harmless observer.handler) :
    SameBut hidden (crew.run observer actions) (crew'.run observer actions') := by
  induction both generalizing crew' with
  | nil => exact h
  | @cons crew action action' rest rest' first others ih =>
    have follows : SameBut hidden (crew.step observer action) (crew'.step observer action') :=
      h.step first (quiet.earlier (grows_reached (reached_run _ rest)))
        (quiet'.earlier (grows_reached (reached_run _ rest')))
    exact ih follows quiet quiet'

theorem SameBut.rests (h : SameBut hidden crew crew') (plans : plan.Alike hidden plan')
    (rests : Rests plan crew worker) : Rests plan' crew' worker := by
  rw [Rests] at rests ⊢
  cases here : crew.stages[worker]? with
  | none =>
    rw [h.absent here]
    rfl
  | some stage =>
    obtain ⟨stage', here', looks⟩ := h.lookalike here
    rw [here] at rests
    rw [here']
    cases looks with
    | waiting attempt call =>
      have alike := plans attempt
      rw [Option.map_eq_none_iff.1 rests] at alike
      cases planned' : plan' attempt with
      | none => exact Option.map_eq_none_iff.2 planned'
      | some outcome' =>
        rw [planned'] at alike
        cases alike
    | ended => rfl
    | fresh | idle | assigned | settled | recorded => cases rests

theorem SameBut.next (h : SameBut hidden crew crew') (plans : plan.Alike hidden plan')
    {action : Action}
    (next : crew.stages[worker]?.bind (Stage.next? plan worker) = some action) :
    ∃ action', crew'.stages[worker]?.bind (Stage.next? plan' worker) = some action' ∧
      action.Alike hidden crew action' := by
  obtain ⟨stage, here, takes⟩ := Option.bind_eq_some_iff.1 next
  obtain ⟨stage', here', looks⟩ := h.lookalike here
  rw [here']
  cases looks with
  | waiting attempt call =>
    obtain ⟨outcome, planned, rfl⟩ := Option.map_eq_some_iff.1 takes
    have alike := plans attempt
    rw [planned] at alike
    cases planned' : plan' attempt with
    | none =>
      rw [planned'] at alike
      cases alike
    | some outcome' =>
      rw [planned'] at alike
      cases alike with
      | some alike =>
        refine ⟨_, congrArg (Option.map (Action.finish worker)) planned', .finish ?_⟩
        intro other call' waits
        cases here.symm.trans waits
        exact alike
  | ended => cases takes
  | fresh | idle | assigned | settled | recorded =>
    cases takes
    exact ⟨_, rfl, .advance worker⟩

theorem SameBut.turn (h : SameBut hidden crew crew') (plans : plan.Alike hidden plan')
    (worker : Nat) (quiet : (crew.turn observer plan worker).log.Harmless observer.handler)
    (quiet' : (crew'.turn observer plan' worker).log.Harmless observer.handler) :
    SameBut hidden (crew.turn observer plan worker) (crew'.turn observer plan' worker) := by
  fun_induction Crew.turn observer plan worker crew generalizing crew' with
  | case1 crew rests =>
    rw [turn_of_rests observer (h.rests plans rests)]
    exact h
  | case2 crew action next ih =>
    -- The other worker goes on as well, so that both turns are as long.
    obtain ⟨action', next', alike⟩ := h.next plans next
    rw [turn_of_next next'] at quiet' ⊢
    have follows : SameBut hidden (crew.step observer action) (crew'.step observer action') :=
      h.step alike (quiet.earlier (grows_turn observer plan worker _))
        (quiet'.earlier (grows_turn observer plan' worker _))
    exact ih follows quiet quiet'

theorem SameBut.turns (h : SameBut hidden crew crew') (plans : plan.Alike hidden plan')
    (workers : List Nat)
    (quiet : (crew.turns observer plan workers).log.Harmless observer.handler)
    (quiet' : (crew'.turns observer plan' workers).log.Harmless observer.handler) :
    SameBut hidden (crew.turns observer plan workers) (crew'.turns observer plan' workers) := by
  induction workers generalizing crew crew' with
  | nil => exact h
  | cons worker rest ih =>
    have first := quiet.earlier (grows_turns observer plan (crew.turn observer plan worker) rest)
    have first' :=
      quiet'.earlier (grows_turns observer plan' (crew'.turn observer plan' worker) rest)
    exact ih (h.turn plans worker first first') quiet quiet'

theorem SameBut.release (observer : Observer) (h : SameBut hidden crew crew')
    {items items' : List (Nat × Outcome)}
    (alike : List.Forall₂ (fun item item' =>
      item'.1 = item.1 ∧ Outcome.Alike hidden item.1 item.2 item'.2) items items') :
    SameBut hidden (crew.release observer items).1 (crew'.release observer items').1 ∧
      (crew'.release observer items').2 = (crew.release observer items).2 := by
  induction alike generalizing crew crew' with
  | nil => exact ⟨h, rfl⟩
  | @cons item item' rest rest' first others ih =>
    obtain ⟨attempt, outcome⟩ := item
    obtain ⟨attempt', outcome'⟩ := item'
    obtain ⟨rfl, alike⟩ := first
    cases found : crew.workerOf? attempt' with
    | none =>
      obtain ⟨after, same⟩ := ih h
      simp only [Crew.release, h.workerOf?, found]
      exact ⟨after, congrArg (fun rest => (rest.1, attempt' :: rest.2)) same⟩
    | some worker =>
      obtain ⟨call, waits⟩ := waiting_of_workerOf? found
      obtain ⟨after, same⟩ := ih <| h.finish fun other call' waits' => by
        cases waits.symm.trans waits'
        exact alike
      simp only [Crew.release, h.workerOf?, found]
      exact ⟨after, congrArg (fun rest => (worker :: rest.1, rest.2)) same⟩

theorem SameBut.cancelAll (h : SameBut hidden crew crew') :
    SameBut hidden (crew.cancelAll observer) (crew'.cancelAll observer) := by
  unfold Crew.cancelAll
  rw [h.size_stages]
  generalize List.range crew.stages.size = workers
  induction workers generalizing crew crew' with
  | nil => exact h
  | cons worker rest ih => exact ih (h.cancel worker)

theorem SameBut.resume (h : SameBut hidden crew crew') (plans : plan.Alike hidden plan')
    {items items' : List (Nat × Outcome)}
    (alike : List.Forall₂ (fun item item' =>
      item'.1 = item.1 ∧ Outcome.Alike hidden item.1 item.2 item'.2) items items')
    (quiet : (crew.resume observer plan items).log.Harmless observer.handler)
    (quiet' : (crew'.resume observer plan' items').log.Harmless observer.handler) :
    SameBut hidden (crew.resume observer plan items) (crew'.resume observer plan' items') := by
  obtain ⟨released, same⟩ := h.release observer alike
  unfold Crew.resume at quiet quiet' ⊢
  rw [same] at quiet' ⊢
  exact released.turns plans _ quiet quiet'

theorem SameBut.heed (h : SameBut hidden crew crew') (plans : plan.Alike hidden plan')
    {step step' : Step} (alike : step.Alike hidden step')
    (quiet : (crew.heed observer plan step).log.Harmless observer.handler)
    (quiet' : (crew'.heed observer plan' step').log.Harmless observer.handler) :
    SameBut hidden (crew.heed observer plan step) (crew'.heed observer plan' step') := by
  cases alike with
  | finish same => exact h.resume plans same quiet quiet'
  | finishAll same =>
    refine h.resume plans ?_ quiet quiet'
    rw [h.inFlight, List.forall₂_map_left_iff, List.forall₂_map_right_iff, List.forall₂_same]
    exact fun attempt _ => ⟨rfl, same attempt⟩
  | cancel | shutdown => exact h.cancelAll
  | wait | receive | closeReceiver => exact h

end Crew

end Preconnect
