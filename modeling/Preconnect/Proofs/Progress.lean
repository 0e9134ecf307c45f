import Mathlib.Algebra.Group.Action.Defs
import Mathlib.Algebra.Order.BigOperators.Group.List
import Mathlib.Algebra.Order.Group.Nat
import Mathlib.Data.List.Chain
import Mathlib.Data.List.Perm.Subperm
import Preconnect.Proofs.Concurrency
import Preconnect.Proofs.KeptFailure
import Preconnect.Proofs.Labor

/-!
Progress. What the workers of a crew can do by themselves comes to an end in whatever order they do
it, and then the warm-up has concluded or an attempt is in flight. Every attempt is finished at most
once, so that those who wait for attempts to finish do not wait for ever.
-/
namespace Preconnect

theorem Stage.rank_le (stage : Stage) : stage.rank ≤ 5 := by
  cases stage <;> simp [rank]

namespace Crew

variable {observer : Observer} {supply : Supply} {plan : Plan} {request : Request}
  {action : Action} {crew crew' : Crew}

/-- A worker does what it can do by itself, or with an attempt that is over as soon as it begins. -/
def Moves (observer : Observer) (plan : Plan) (before after : Crew) : Prop :=
  ∃ worker action, before.stages[worker]?.bind (Stage.next? plan worker) = some action ∧
    after = before.step observer action

def toil (crew : Crew) : Nat :=
  6 * crew.queue.attempts.length + (crew.stages.toList.map Stage.rank).sum

theorem sum_rank_set {stages : Array Stage} {worker : Nat} {old : Stage}
    (here : stages[worker]? = some old) (new : Stage) :
    ((stages.setIfInBounds worker new).toList.map Stage.rank).sum + old.rank =
      (stages.toList.map Stage.rank).sum + new.rank := by
  obtain ⟨before, after, split, changed⟩ := toList_setIfInBounds_split here new
  rw [changed, split]
  simp only [List.map_append, List.map_cons, List.sum_append, List.sum_cons]
  omega

theorem toil_lt (moves : Moves observer plan crew crew') : crew'.toil < crew.toil := by
  obtain ⟨worker, action, next, rfl⟩ := moves
  have less := effort_step_lt observer plan next
  have mine := worker_of_next next
  rcases step_eq_or_change observer (allows_anything crew action) with same | change
  -- A step that changes nothing would not bring its worker nearer to the end of its turn.
  · rw [same] at less
    exact absurd less (Nat.lt_irrefl _)
  · generalize crew.step observer action = crew' at less change
    subst mine
    obtain @⟨old, new, shared, here, shift⟩ := change
    have moved := sum_rank_set here new
    simp only [effort, here, shift.arrives here, Option.map_some, Option.getD_some] at less
    rw [toil, toil, stages_setStage, shift.stages]
    omega

theorem toil_le (crew : Crew) :
    crew.toil ≤ 6 * crew.queue.attempts.length + 5 * crew.stages.size := by
  have each := List.sum_le_card_nsmul (crew.stages.toList.map Stage.rank) 5 fun rank member => by
    obtain ⟨stage, -, rfl⟩ := List.mem_map.1 member
    exact stage.rank_le
  rw [List.length_map, Array.length_toList, smul_eq_mul] at each
  rw [toil]
  omega

/-- However the workers go on by themselves, they cannot go on for long. -/
theorem length_le_toil {states : List Crew}
    (chain : List.IsChain (Moves observer plan) (crew :: states)) :
    states.length ≤ crew.toil := by
  induction states generalizing crew with
  | nil => exact Nat.zero_le _
  | cons after rest ih =>
    obtain ⟨first, others⟩ := List.isChain_cons_cons.1 chain
    have less := toil_lt first
    have bound := ih others
    rw [List.length_cons]
    omega

/-- The turns of a single thread are made of such steps. -/
theorem moves_turns (observer : Observer) (plan : Plan) (crew : Crew) (workers : List Nat) :
    Relation.ReflTransGen (Moves observer plan) crew (crew.turns observer plan workers) := by
  refine turns_invariant (Relation.ReflTransGen (Moves observer plan) crew)
    (fun worker sofar => ?_) workers .refl
  exact turn_invariant (Relation.ReflTransGen (Moves observer plan) crew)
    (fun before action next sofar => sofar.tail ⟨worker, action, next, rfl⟩) sofar

theorem not_moves_of_rests (rests : ∀ worker, Rests plan crew worker) :
    ¬ Moves observer plan crew crew' := by
  rintro ⟨worker, action, next, -⟩
  have none := rests worker
  rw [Rests, next] at none
  cases none

def aloft (crew : Crew) : Nat := (gather crew.stages Stage.inFlight?).length

/-- So many attempts were finished on the way from one crew to the other. What is in flight in the
later crew was so before or has begun since, and they are no longer among it. -/
def FinishedBetween (finished : Nat) (before after : Crew) : Prop :=
  after.aloft + finished + before.log.began.length ≤ before.aloft + after.log.began.length

theorem FinishedBetween.refl (crew : Crew) : FinishedBetween 0 crew crew := Nat.le_refl _

theorem FinishedBetween.trans {finished finished' : Nat} {crew'' : Crew}
    (first : FinishedBetween finished crew crew')
    (second : FinishedBetween finished' crew' crew'') :
    FinishedBetween (finished + finished') crew crew'' := by
  unfold FinishedBetween at first second ⊢
  omega

theorem finishedBetween_change (change : Change observer supply action crew crew') :
    FinishedBetween 0 crew crew' := by
  obtain @⟨old, new, shared, here, shift⟩ := change
  have moved := length_gather_set here new Stage.inFlight?
  rw [FinishedBetween, aloft, aloft, stages_setStage, shift.stages, log_setStage]
  cases shift with
  | abandon | leave => simp [Stage.inFlight?] at moved ⊢; omega
  | start | take | stop | begin | finish | record | tell | die =>
    simp [Stage.inFlight?] at moved ⊢
    omega

theorem finishedBetween_step (observer : Observer) (crew : Crew) (action : Action) :
    FinishedBetween 0 crew (crew.step observer action) := by
  rcases step_eq_or_change observer (allows_anything crew action) with same | change
  · rw [same]
    exact .refl crew
  · exact finishedBetween_change change

theorem finishedBetween_turns (observer : Observer) (plan : Plan) (crew : Crew)
    (workers : List Nat) :
    FinishedBetween 0 crew (crew.turns observer plan workers) := by
  refine turns_invariant (FinishedBetween 0 crew) (fun worker sofar => ?_) workers (.refl crew)
  exact turn_invariant (FinishedBetween 0 crew)
    (fun before action _ sofar => sofar.trans (finishedBetween_step ..)) sofar

theorem finishedBetween_cancelAll (observer : Observer) (crew : Crew) :
    FinishedBetween 0 crew (crew.cancelAll observer) :=
  cancelAll_invariant (FinishedBetween 0 crew)
    (fun _ sofar => sofar.trans (finishedBetween_step observer _ _))
    (.refl crew)

theorem aloft_release (observer : Observer) (crew : Crew) (items : List (Nat × Outcome)) :
    (crew.release observer items).1.aloft + (crew.release observer items).2.1.length = crew.aloft ∧
      (crew.release observer items).2.1.length + (crew.release observer items).2.2.length =
        items.length := by
  induction items generalizing crew with
  | nil => exact ⟨rfl, rfl⟩
  | cons item rest ih =>
    cases found : crew.workerOf? item.1 with
    | none =>
      obtain ⟨landed, all⟩ := ih crew
      simp only [release, found]
      exact ⟨landed, congrArg (· + 1) all⟩
    | some worker =>
      obtain ⟨call, waits⟩ := waiting_of_workerOf? found
      obtain ⟨landed, all⟩ := ih (crew.step observer (.finish worker item.2))
      have moved := length_gather_set waits (.settled item.1 item.2.result) Stage.inFlight?
      have lands : (crew.step observer (.finish worker item.2)).aloft + 1 = crew.aloft := by
        rw [step_finish waits, aloft, aloft, stages_setStage]
        simpa [Stage.inFlight?] using moved
      simp only [release, found]
      refine ⟨(congrArg (· + 1) landed).trans lands, ?_⟩
      rw [List.length_cons, Nat.succ_add, all]
      rfl

theorem length_began_le (h : Reached observer supply (request.crew observer) crew) :
    crew.log.began.length ≤ request.target.toNat := by
  have part : crew.log.began.Subperm (List.range request.target.toNat) := by
    rw [List.subperm_ext_iff]
    intro attempt _
    have all := count_prospects_reached h attempt
    simp only [prospects, List.count_append] at all
    omega
  simpa using part.length_le

end Crew

namespace Run

open Crew

variable {request : Request} {observer : Observer} {plan : Plan} {supply : Supply} {pool : Pool}
  {run : Run}

/-- The number of attempts in flight that the step finishes: all that it names but those that it
answers to have ignored. -/
def finishes (run : Run) (step : Step) : Nat :=
  match step with
  | .finish items => items.length - (run.step step).2.ignored.length
  | .finishAll _ => run.crew.inFlight.length - (run.step step).2.ignored.length
  | .wait | .cancel | .shutdown | .receive _ | .closeReceiver => 0

def finishesIn (run : Run) : List Step → Nat
  | [] => 0
  | step :: rest => run.finishes step + (run.step step).1.finishesIn rest

/-- Until the warm-up has concluded, each of the steps finishes an attempt in flight. -/
def Presses (run : Run) : List Step → Prop
  | [] => True
  | step :: rest =>
    (run.conclusion = none → 0 < run.finishes step) ∧ (run.step step).1.Presses rest

theorem finishedBetween_settle (run : Run) : FinishedBetween 0 run.crew run.settle.crew := by
  unfold settle
  split
  · have began : (run.crew.settle run.request run.observer run.pool).1.log.began =
        run.crew.log.began :=
      view_settle_of_none ofWork_began? fun _ => rfl
    show FinishedBetween 0 run.crew (run.crew.settle run.request run.observer run.pool).1
    rw [FinishedBetween, aloft, aloft, stages_settle, began]
    exact Nat.le_refl _
  · exact .refl run.crew

theorem finishes_finish (run : Run) (items : List (Nat × Outcome)) :
    items.length - (run.finish items).2.length =
      (run.crew.release run.observer items).2.1.length := by
  have all := (aloft_release run.observer run.crew items).2
  show items.length - (run.crew.release run.observer items).2.2.length = _
  omega

theorem finishedBetween_finish (run : Run) (items : List (Nat × Outcome)) :
    FinishedBetween (items.length - (run.finish items).2.length) run.crew
      (run.finish items).1.crew := by
  have released : FinishedBetween (run.crew.release run.observer items).2.1.length run.crew
      (run.crew.release run.observer items).1 := by
    have landed := (aloft_release run.observer run.crew items).1
    rw [FinishedBetween, log_release]
    omega
  rw [finishes_finish]
  exact (released.trans (finishedBetween_turns run.observer run.plan _ _)).trans
    (finishedBetween_settle { run with crew := run.crew.resume run.observer run.plan items })

theorem finishedBetween_move (run : Run) (step : Step) :
    FinishedBetween (run.finishes step) run.crew (run.move step).1.crew := by
  cases step with
  | finish items => exact finishedBetween_finish run items
  | finishAll outcome =>
    have between := finishedBetween_finish run
      (run.crew.inFlight.map fun attempt => (attempt, outcome attempt))
    rw [List.length_map] at between
    exact between
  | wait | receive | closeReceiver => exact .refl run.crew
  | cancel =>
    have given : FinishedBetween 0 (run.crew.cancelAll run.observer)
        (run.crew.cancelAll run.observer).dropped := by
      have same := view_dropped (run.crew.cancelAll run.observer) ofWork_began?
      rw [FinishedBetween, Log.began, Log.began, same]
      exact Nat.le_refl _
    show FinishedBetween 0 run.crew run.cancel.crew
    unfold cancel
    split
    · exact (finishedBetween_cancelAll run.observer run.crew).trans given
    · exact .refl run.crew
  | shutdown =>
    let left : Run :=
      { run with crew := run.crew.cancelAll run.observer, outlet := run.outlet.shutdown }
    exact (finishedBetween_cancelAll run.observer run.crew).trans (finishedBetween_settle left)

theorem finishedBetween_steps (run : Run) (steps : List Step) :
    FinishedBetween (run.finishesIn steps) run.crew (run.steps steps).1.crew := by
  induction steps generalizing run with
  | nil => exact .refl run.crew
  | cons step rest ih => exact (finishedBetween_move run step).trans (ih (run.step step).1)

theorem Phase.aloft_le {crew : Crew} {after : Pool} {conclusion : Option Conclusion}
    (phase : Phase request observer plan supply pool crew after conclusion) :
    crew.aloft ≤ crew.log.began.length := by
  cases concludes : conclusion with
  | none =>
    obtain ⟨-, -, paused⟩ := phase.paused concludes
    refine reached_invariant (fun crew => crew.aloft ≤ crew.log.began.length)
      (fun change ih => ?_) paused.reached ?_
    · have between := finishedBetween_change change
      unfold FinishedBetween at between
      omega
    · rw [aloft, gather_crew rfl]
      exact Nat.zero_le _
  | some ended =>
    rw [concludes] at phase
    rw [aloft, gather_of_isOver phase.isOver fun _ => rfl]
    exact Nat.zero_le _

theorem Phase.length_began_le {crew : Crew} {after : Pool} {conclusion : Option Conclusion}
    (phase : Phase request observer plan supply pool crew after conclusion) :
    crew.log.began.length ≤ request.target.toNat := by
  obtain ⟨worked, reached, same, -⟩ := phase.worked
  rw [Log.began, same ofWork_began? fun _ => rfl]
  exact Crew.length_began_le reached

/-- In a state where nothing happens by itself, the warm-up has ended or waits for an attempt. -/
theorem Phase.waits {crew : Crew} {after : Pool} {conclusion : Option Conclusion}
    (phase : Phase request observer plan supply pool crew after conclusion) :
    conclusion.isSome = true ∨ crew.inFlight ≠ [] := by
  cases phase with
  | rejected | refused | dropped | settled => exact .inl rfl
  | running begins paused alive =>
    right
    intro none
    have allOver : crew.isOver = true := by
      rw [isOver_iff]
      intro worker stage here
      apply Bool.of_not_eq_false
      intro left
      obtain ⟨attempt, call, -, -, flies⟩ :=
        (atWork_of_rests paused.reached paused.rests).waits worker stage here left
      rw [none] at flies
      cases flies
    rw [alive] at allOver
    cases allOver

theorem Phase.not_moves {crew next : Crew} {after : Pool} {conclusion : Option Conclusion}
    (phase : Phase request observer plan supply pool crew after conclusion) :
    ¬ Moves observer plan crew next := by
  cases concludes : conclusion with
  | none =>
    obtain ⟨-, -, paused⟩ := phase.paused concludes
    exact not_moves_of_rests paused.rests
  | some ended =>
    rw [concludes] at phase
    apply not_moves_of_rests
    intro worker
    rw [Rests, Option.bind_eq_none_iff]
    intro stage here
    have ended := isOver_iff.1 phase.isOver worker stage here
    cases stage with
    | ended => rfl
    | fresh | idle | assigned | waiting | settled | recorded => cases ended

theorem finishes_of_inFlight {attempt : Nat} (flies : attempt ∈ run.crew.inFlight)
    (outcome : Outcome) : run.finishes (.finish [(attempt, outcome)]) = 1 := by
  rw [inFlight, List.mem_mergeSort] at flies
  obtain ⟨stage, member, found⟩ := List.mem_filterMap.1 flies
  obtain ⟨worker, here⟩ := Array.mem_iff_getElem?.1 (Array.mem_toList_iff.1 member)
  cases stage with
  | waiting other call =>
    cases found
    obtain ⟨first, found⟩ := workerOf?_isSome here
    have counted := finishes_finish run [(attempt, outcome)]
    simp only [release, found, List.length_cons, List.length_nil] at counted
    exact counted
  | fresh | idle | assigned | settled | recorded | ended => cases found

theorem Presses.length_le {steps : List Step}
    (inPhase : InPhase request observer plan anything pool run) (presses : run.Presses steps) :
    (run.steps steps).1.conclusion.isSome = true ∨ steps.length ≤ run.finishesIn steps := by
  induction steps generalizing run with
  | nil => exact .inr (Nat.le_refl 0)
  | cons step rest ih =>
    obtain ⟨first, others⟩ := presses
    cases concludes : run.conclusion with
    | some conclusion =>
      left
      have past : run.HasEnded := inPhase.hasEnded (by rw [concludes]; rfl)
      obtain ⟨outlet, same⟩ := past.steps (step :: rest)
      rw [same]
      exact past.concluded
    | none =>
      have finished := first concludes
      rcases ih (inPhase_step plan.within_anything step.within_anything inPhase) others with
        ended | longer
      · exact .inl ended
      · right
        rw [finishesIn, List.length_cons]
        omega

/-- A warm-up comes to its end. Whatever a crew can do by itself it can do for a bounded number of
steps only, in whatever order its workers take them, and the turns of a single thread are such
steps. When nothing more happens by itself, the warm-up has ended or waits for an attempt that
someone may finish, and without workers it has ended. No more attempts are finished than there are,
so that as many steps that finish one each lead to the end. -/
theorem warm_up_progresses (request : Request) (level : Option Level) (plan : Plan) (pool : Pool)
    (steps : List Step) :
    let observer := Observer.ofRequest request level
    let target := request.target.toNat
    let first := (start request level plan pool).1
    let run := (play request level plan pool steps).1
    (∀ crew states, List.IsChain (Moves observer plan) (crew :: states) →
        states.length ≤ 6 * crew.queue.attempts.length + 5 * crew.stages.size) ∧
      (∀ crew workers, Relation.ReflTransGen (Moves observer plan) crew
        (crew.turns observer plan workers)) ∧
      (∀ next, ¬ Moves observer plan run.crew next) ∧
      (run.conclusion.isSome = true ∨ run.crew.inFlight ≠ []) ∧
      (∀ attempt ∈ run.crew.inFlight, ∀ outcome,
        run.finishes (.finish [(attempt, outcome)]) = 1) ∧
      (run.crew.isOver = true → run.conclusion.isSome = true) ∧
      first.finishesIn steps ≤ target ∧
      (first.Presses steps → target ≤ steps.length → run.conclusion.isSome = true) := by
  intro observer target first run
  have started : InPhase request observer plan anything pool first :=
    inPhase_start request level plan pool
  have inPhase : InPhase request observer plan anything pool run :=
    inPhase_play request level plan pool steps
  have bound : first.finishesIn steps + run.crew.aloft ≤ target := by
    have between : run.crew.aloft + first.finishesIn steps + first.crew.log.began.length ≤
        first.crew.aloft + run.crew.log.began.length := finishedBetween_steps first steps
    have before := started.phase.aloft_le
    have after : run.crew.log.began.length ≤ target := inPhase.phase.length_began_le
    omega
  have waits := inPhase.phase.waits
  refine ⟨fun crew states chain => Nat.le_trans (length_le_toil chain) crew.toil_le,
    moves_turns observer plan, fun next => inPhase.phase.not_moves, waits,
    fun attempt flies => finishes_of_inFlight flies, fun allOver => ?_, by omega,
    fun presses enough => ?_⟩
  · exact waits.resolve_right fun flies => flies (inFlight_of_isOver allOver)
  · rcases presses.length_le started with ended | short
    · exact ended
    · apply waits.resolve_right
      intro flies
      have some : 0 < run.crew.aloft := by
        rw [aloft, ← length_inFlight]
        exact List.length_pos_of_ne_nil flies
      omega

end Run

end Preconnect
