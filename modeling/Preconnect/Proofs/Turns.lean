import Preconnect.Proofs.Change

/-!
Whole turns. On a single thread a worker goes on until it has to wait or has come to its end, so
between two decisions from outside all workers are at rest.
-/
namespace Preconnect

def Plan.Within (plan : Plan) (supply : Crew.Supply) : Prop :=
  ∀ attempt outcome, plan attempt = some outcome → supply attempt outcome

namespace Crew

variable {observer : Observer} {supply : Supply} {plan : Plan} {origin crew : Crew}
  {worker other : Nat} {action : Action}

/-- The worker can take no step by itself. -/
def Rests (plan : Plan) (crew : Crew) (worker : Nat) : Prop :=
  crew.stages[worker]?.bind (Stage.next? plan worker) = none

theorem turn_invariant (holds : Crew → Prop)
    (keep : ∀ crew action, crew.stages[worker]?.bind (Stage.next? plan worker) = some action →
      holds crew → holds (crew.step observer action))
    (start : holds crew) : holds (crew.turn observer plan worker) := by
  fun_induction turn observer plan worker crew with
  | case1 => exact start
  | case2 crew action next ih => exact ih (keep crew action next start)

theorem turns_invariant (holds : Crew → Prop)
    (turn : ∀ {crew : Crew} (worker : Nat), holds crew → holds (crew.turn observer plan worker))
    (workers : List Nat) (h : holds crew) : holds (crew.turns observer plan workers) := by
  induction workers generalizing crew with
  | nil => exact h
  | cons worker rest ih => exact ih (turn worker h)

theorem cancelAll_invariant (holds : Crew → Prop)
    (cancel : ∀ {crew : Crew} (worker : Nat), holds crew →
      holds (crew.step observer (.cancel worker)))
    (h : holds crew) : holds (crew.cancelAll observer) := by
  unfold cancelAll
  generalize List.range crew.stages.size = workers
  induction workers generalizing crew with
  | nil => exact h
  | cons worker rest ih => exact ih (cancel worker h)

theorem rests_turn (observer : Observer) (plan : Plan) (worker : Nat) (crew : Crew) :
    Rests plan (crew.turn observer plan worker) worker := by
  fun_induction turn observer plan worker crew with
  | case1 crew rests => exact rests
  | case2 crew action next ih => exact ih

theorem own_of_next (h : crew.stages[worker]?.bind (Stage.next? plan worker) = some action) :
    action = .advance worker ∨ ∃ outcome, action = .finish worker outcome := by
  obtain ⟨stage, -, next⟩ := Option.bind_eq_some_iff.1 h
  cases stage with
  | ended => cases next
  | waiting attempt call =>
    obtain ⟨outcome, -, rfl⟩ := Option.map_eq_some_iff.1 next
    exact .inr ⟨outcome, rfl⟩
  | fresh | idle | assigned | settled | recorded =>
    cases next
    exact .inl rfl

theorem worker_of_next (h : crew.stages[worker]?.bind (Stage.next? plan worker) = some action) :
    action.worker = worker := by
  obtain rfl | ⟨outcome, rfl⟩ := own_of_next h <;> rfl

theorem allows_of_next (within : plan.Within supply)
    (h : crew.stages[worker]?.bind (Stage.next? plan worker) = some action) :
    Allows supply crew action := by
  obtain ⟨stage, here, next⟩ := Option.bind_eq_some_iff.1 h
  cases stage with
  | ended => cases next
  | waiting attempt call =>
    obtain ⟨outcome, planned, rfl⟩ := Option.map_eq_some_iff.1 next
    intro attempt' call' here'
    rw [here] at here'
    cases here'
    exact within attempt outcome planned
  | fresh | idle | assigned | settled | recorded =>
    cases next
    trivial

theorem reached_turn (within : plan.Within supply) (h : Reached observer supply origin crew) :
    Reached observer supply origin (crew.turn observer plan worker) :=
  turn_invariant (Reached observer supply origin)
    (fun _ _ next ih => reached_step ih (allows_of_next within next)) h

theorem stages_turn_of_ne (h : other ≠ worker) :
    (crew.turn observer plan worker).stages[other]? = crew.stages[other]? :=
  turn_invariant (fun after => after.stages[other]? = crew.stages[other]?)
    (fun before action next ih => by
      rw [stages_step_of_ne (by rw [worker_of_next next]; exact h), ih]) rfl

theorem foldl_settles (operate : Crew → Nat → Crew) (settled : Nat → Option Stage → Prop)
    (self : ∀ crew worker, settled worker (operate crew worker).stages[worker]?)
    (others : ∀ crew worker other, other ≠ worker →
      (operate crew worker).stages[other]? = crew.stages[other]?)
    (workers : List Nat) (crew : Crew) (worker : Nat)
    (h : worker ∈ workers ∨ settled worker crew.stages[worker]?) :
    settled worker (workers.foldl operate crew).stages[worker]? := by
  induction workers generalizing crew with
  | nil => exact h.resolve_left (List.not_mem_nil)
  | cons first rest ih =>
    apply ih
    -- A worker that occurs again is only settled anew.
    by_cases same : worker = first
    · subst same
      exact .inr (self crew worker)
    · rw [others crew first worker same]
      rcases h with member | before
      · exact .inl ((List.mem_cons.1 member).resolve_left same)
      · exact .inr before

theorem rests_turns {workers : List Nat} (h : worker ∈ workers ∨ Rests plan crew worker) :
    Rests plan (crew.turns observer plan workers) worker :=
  foldl_settles (fun crew worker => crew.turn observer plan worker)
    (fun worker stage => stage.bind (Stage.next? plan worker) = none)
    (fun crew worker => rests_turn observer plan worker crew)
    (fun _ _ _ different => stages_turn_of_ne different) workers crew worker h

theorem reached_turns (within : plan.Within supply) (h : Reached observer supply origin crew)
    (workers : List Nat) : Reached observer supply origin (crew.turns observer plan workers) :=
  turns_invariant (Reached observer supply origin) (fun _ => reached_turn within) workers h

theorem waiting_of_workerOf? {attempt : Nat} (h : crew.workerOf? attempt = some worker) :
    ∃ call, crew.stages[worker]? = some (.waiting attempt call) := by
  obtain ⟨hw, found, -⟩ := Array.findIdx?_eq_some_iff_getElem.1 h
  have here : crew.stages[worker]? = some crew.stages[worker] := by simp [hw]
  cases hs : crew.stages[worker] with
  | waiting other call =>
    rw [hs] at found here
    have : other = attempt := by simpa [Stage.inFlight?] using found
    exact ⟨call, this ▸ here⟩
  | fresh | idle | assigned | settled | recorded | ended =>
    rw [hs] at found
    simp [Stage.inFlight?] at found

theorem workerOf?_isSome {attempt call : Nat}
    (here : crew.stages[worker]? = some (.waiting attempt call)) :
    ∃ first, crew.workerOf? attempt = some first := by
  apply Option.isSome_iff_exists.1
  rw [workerOf?, Array.findIdx?_isSome, Array.any_eq_true']
  refine ⟨_, Array.mem_of_getElem? here, ?_⟩
  simp [Stage.inFlight?]

theorem step_advance {stage : Stage} (observer : Observer)
    (here : crew.stages[worker]? = some stage) :
    crew.step observer (.advance worker) = crew.advance observer worker stage := by
  simp only [step, here]

theorem step_finish {attempt call : Nat} {outcome : Outcome}
    (h : crew.stages[worker]? = some (.waiting attempt call)) :
    crew.step observer (.finish worker outcome) =
      crew.setStage worker (.settled attempt outcome.result) := by
  simp only [step, h, finish]

theorem release_invariant (holds : Crew → Prop) (items : List (Nat × Outcome))
    (finish : ∀ {crew : Crew} {worker call : Nat}, ∀ item ∈ items,
      crew.stages[worker]? = some (.waiting item.1 call) → holds crew →
        holds (crew.step observer (.finish worker item.2)))
    (h : holds crew) : holds (crew.release observer items).1 := by
  induction items generalizing crew with
  | nil => exact h
  | cons item rest ih =>
    have finish' {crew : Crew} {worker call : Nat} (other : Nat × Outcome)
        (member : other ∈ rest) :=
      @finish crew worker call other (List.mem_cons_of_mem item member)
    cases found : crew.workerOf? item.1 with
    | none =>
      simp only [release, found]
      exact ih finish' h
    | some worker =>
      obtain ⟨call, waits⟩ := waiting_of_workerOf? found
      simp only [release, found]
      exact ih finish' (finish item List.mem_cons_self waits h)

theorem stages_release (observer : Observer) (crew : Crew) (items : List (Nat × Outcome))
    (worker : Nat) :
    (crew.release observer items).1.stages[worker]? = crew.stages[worker]? ∨
      worker ∈ (crew.release observer items).2.1 ∧
        ∃ attempt result,
          (crew.release observer items).1.stages[worker]? = some (.settled attempt result) := by
  induction items generalizing crew with
  | nil => exact .inl rfl
  | cons item rest ih =>
    obtain ⟨attempt, outcome⟩ := item
    cases found : crew.workerOf? attempt with
    | none =>
      simp only [release, found]
      exact ih crew
    | some first =>
      obtain ⟨call, waits⟩ := waiting_of_workerOf? found
      have hw : first < crew.stages.size := (Array.getElem?_eq_some_iff.1 waits).1
      simp only [release, found, List.mem_cons]
      rcases ih (crew.step observer (.finish first outcome)) with same | ⟨member, settled⟩
      · rw [same, step_finish waits, stages_setStage]
        by_cases this : worker = first
        · subst this
          exact .inr ⟨.inl rfl, attempt, outcome.result, by simp [hw]⟩
        · exact .inl (Array.getElem?_setIfInBounds_ne (Ne.symm this))
      · exact .inr ⟨.inr member, settled⟩

theorem log_release (observer : Observer) (crew : Crew) (items : List (Nat × Outcome)) :
    (crew.release observer items).1.log = crew.log := by
  refine release_invariant (fun after => after.log = crew.log) items (fun item _ waits same => ?_)
    rfl
  rw [step_finish waits, log_setStage, same]

theorem reached_release (items : List (Nat × Outcome))
    (supplied : ∀ item ∈ items, supply item.1 item.2)
    (h : Reached observer supply origin crew) :
    Reached observer supply origin (crew.release observer items).1 := by
  refine release_invariant (Reached observer supply origin) items
    (fun item member waits sofar => reached_step sofar ?_) h
  intro attempt call here
  rw [waits] at here
  cases here
  exact supplied item member

theorem reached_cancelAll (h : Reached observer supply origin crew) :
    Reached observer supply origin (crew.cancelAll observer) :=
  cancelAll_invariant (Reached observer supply origin) (fun _ sofar => reached_step sofar trivial) h

theorem isOver_iff :
    crew.isOver = true ↔
      ∀ (worker : Nat) (stage : Stage), crew.stages[worker]? = some stage →
        stage.hasEnded = true := by
  rw [isOver, Array.all_eq_true]
  constructor
  · intro all worker stage here
    obtain ⟨hw, rfl⟩ := Array.getElem?_eq_some_iff.1 here
    exact all worker hw
  · intro all worker hw
    exact all worker _ (Array.getElem?_eq_getElem hw)

theorem ended_step_cancel (observer : Observer) (crew : Crew) (worker : Nat) (stage : Stage)
    (h : (crew.step observer (.cancel worker)).stages[worker]? = some stage) :
    stage.hasEnded = true := by
  cases here : crew.stages[worker]? with
  | none => simp [step, here] at h
  | some old =>
    have hw : worker < crew.stages.size := (Array.getElem?_eq_some_iff.1 here).1
    simp only [step, here] at h
    cases old with
    | ended ending =>
      simp only [cancel, here, Option.some.injEq] at h
      rw [← h]
      rfl
    | fresh | idle | assigned | waiting | settled | recorded =>
      simp [cancel, hw] at h
      rw [← h]
      rfl

theorem size_cancelAll (observer : Observer) (crew : Crew) :
    (crew.cancelAll observer).stages.size = crew.stages.size := by
  have reached : Reached observer anything crew (crew.cancelAll observer) := reached_cancelAll .refl
  exact reached_invariant (·.stages.size = crew.stages.size)
    (fun change ih => change.size_stages.trans ih) reached rfl

theorem isOver_cancelAll (observer : Observer) (crew : Crew) :
    (crew.cancelAll observer).isOver = true := by
  rw [isOver_iff]
  intro worker stage here
  have hw : worker < (crew.cancelAll observer).stages.size := (Array.getElem?_eq_some_iff.1 here).1
  rw [size_cancelAll] at hw
  exact foldl_settles (fun crew worker => crew.step observer (.cancel worker))
    (fun _ stage? => ∀ stage, stage? = some stage → stage.hasEnded = true)
    (fun crew worker stage => ended_step_cancel observer crew worker stage)
    (fun _ _ _ different => stages_step_of_ne different) (List.range crew.stages.size) crew worker
    (.inl (List.mem_range.2 hw)) stage here

end Crew

end Preconnect
