import Preconnect.Blocking
import Preconnect.Proofs.Matching

/-!
Panics of attempts. All that is left of one is the error that is made of its payload, wherever the
panic was caught. An attempt that panics can therefore not be told from one that returns this error,
in whatever warm-up and however often it is done.
-/
namespace Preconnect

namespace Outcome

/-- The outcomes of which nothing is left but the error made of the payload. -/
inductive Breaks (payload : Payload) : Outcome → Prop
  | early : Breaks payload (.earlyPanic payload)
  | late : Breaks payload (.panic payload)
  | returned : Breaks payload (.fail (.ofPanic payload))

inductive SameUpToPanic : Outcome → Outcome → Prop
  | same (outcome : Outcome) : SameUpToPanic outcome outcome
  | broken {payload : Payload} {outcome outcome' : Outcome} (breaks : outcome.Breaks payload)
      (breaks' : outcome'.Breaks payload) : SameUpToPanic outcome outcome'

theorem Breaks.result {payload : Payload} {outcome : Outcome} (breaks : outcome.Breaks payload) :
    outcome.result = .error (.ofPanic payload) := by
  cases breaks <;> rfl

theorem SameUpToPanic.result {outcome outcome' : Outcome} (alike : outcome.SameUpToPanic outcome') :
    outcome'.result = outcome.result := by
  cases alike with
  | same => rfl
  | broken breaks breaks' => rw [breaks.result, breaks'.result]

theorem SameUpToPanic.onThread {outcome outcome' : Outcome}
    (alike : outcome.SameUpToPanic outcome') :
    outcome'.onThread = outcome.onThread := by
  rw [Outcome.onThread, alike.result, Outcome.onThread]

end Outcome

def Plan.SameUpToPanic (plan plan' : Plan) : Prop :=
  ∀ attempt, Option.Rel Outcome.SameUpToPanic (plan attempt) (plan' attempt)

inductive Step.SameUpToPanic : Step → Step → Prop
  | same (step : Step) : SameUpToPanic step step
  | finish {items items' : List (Nat × Outcome)}
      (pairs : List.Forall₂ (fun item item' => item'.1 = item.1 ∧ item.2.SameUpToPanic item'.2)
        items items') : SameUpToPanic (finish items) (finish items')
  | finishAll {outcome outcome' : Nat → Outcome}
      (pairs : ∀ attempt, (outcome attempt).SameUpToPanic (outcome' attempt)) :
    SameUpToPanic (finishAll outcome) (finishAll outcome')

inductive Action.SameUpToPanic : Action → Action → Prop
  | same (action : Action) : SameUpToPanic action action
  | finish {outcome outcome' : Outcome} (worker : Nat) (alike : outcome.SameUpToPanic outcome') :
    SameUpToPanic (finish worker outcome) (finish worker outcome')

theorem Stage.next?_sameUpToPanic {plan plan' : Plan} (plans : plan.SameUpToPanic plan')
    (worker : Nat) (stage : Stage) :
    Option.Rel Action.SameUpToPanic (stage.next? plan worker) (stage.next? plan' worker) := by
  cases stage with
  | waiting attempt call =>
    have pairs := plans attempt
    simp only [next?]
    generalize plan attempt = planned at pairs ⊢
    generalize plan' attempt = planned' at pairs ⊢
    cases pairs with
    | none => exact .none
    | some alike => exact .some (.finish worker alike)
  | ended => exact .none
  | fresh | idle | assigned | settled | recorded => exact .some (.same _)

namespace Crew

variable {plan plan' : Plan} (observer : Observer) (crew : Crew)

theorem step_sameUpToPanic {action action' : Action} (alike : action.SameUpToPanic action') :
    crew.step observer action' = crew.step observer action := by
  cases alike with
  | same => rfl
  | finish worker alike => simp only [step, finish, alike.result]

theorem run_sameUpToPanic {actions actions' : List Action}
    (pairs : List.Forall₂ Action.SameUpToPanic actions actions') :
    crew.run observer actions' = crew.run observer actions := by
  induction pairs generalizing crew with
  | nil => rfl
  | cons alike _ ih =>
    simp only [run, List.foldl_cons, step_sameUpToPanic observer crew alike]
    exact ih (crew.step observer _)

theorem turn_sameUpToPanic (plans : plan.SameUpToPanic plan') (worker : Nat) :
    crew.turn observer plan' worker = crew.turn observer plan worker := by
  have next (crew : Crew) : Option.Rel Action.SameUpToPanic
      (crew.stages[worker]?.bind (Stage.next? plan worker))
      (crew.stages[worker]?.bind (Stage.next? plan' worker)) := by
    cases crew.stages[worker]? with
    | none => exact .none
    | some stage => exact stage.next?_sameUpToPanic plans worker
  fun_induction turn observer plan worker crew with
  | case1 crew rests =>
    have pairs := next crew
    rw [rests] at pairs
    generalize rests' : crew.stages[worker]?.bind (Stage.next? plan' worker) = next' at pairs
    cases pairs
    exact turn_of_rests observer rests'
  | case2 crew action takes ih =>
    have pairs := next crew
    rw [takes] at pairs
    generalize takes' : crew.stages[worker]?.bind (Stage.next? plan' worker) = next' at pairs
    cases pairs with
    | some alike => rw [turn_of_next takes', step_sameUpToPanic observer crew alike, ih]

theorem turns_sameUpToPanic (plans : plan.SameUpToPanic plan') (workers : List Nat) :
    crew.turns observer plan' workers = crew.turns observer plan workers := by
  simp only [turns, turn_sameUpToPanic observer _ plans]

theorem release_sameUpToPanic {items items' : List (Nat × Outcome)}
    (pairs : List.Forall₂ (fun item item' => item'.1 = item.1 ∧ item.2.SameUpToPanic item'.2) items
      items') :
    crew.release observer items' = crew.release observer items := by
  induction pairs generalizing crew with
  | nil => rfl
  | @cons item item' rest rest' first others ih =>
    obtain ⟨attempt, outcome⟩ := item
    obtain ⟨attempt', outcome'⟩ := item'
    obtain ⟨rfl, alike⟩ := first
    simp only [release]
    cases crew.workerOf? attempt' with
    | none => simp only [ih]
    | some worker => simp only [step_sameUpToPanic observer crew (.finish worker alike), ih]

end Crew

namespace Run

/-- The runs have come to the same by plans that differ in the ways of panics only. -/
inductive SameUpToPanic (run : Run) : Run → Prop
  | mk {plan' : Plan} (plans : run.plan.SameUpToPanic plan') :
    SameUpToPanic run { run with plan := plan' }

variable {run run' : Run}

theorem SameUpToPanic.settle (alike : SameUpToPanic run run') :
    SameUpToPanic run.settle run'.settle := by
  obtain ⟨plans⟩ := alike
  unfold Run.settle
  dsimp only
  split
  · exact .mk plans
  · exact .mk plans

theorem SameUpToPanic.proceed (alike : SameUpToPanic run run') (workers : List Nat) :
    SameUpToPanic (run.proceed workers) (run'.proceed workers) := by
  obtain ⟨plans⟩ := alike
  unfold Run.proceed
  rw [Crew.turns_sameUpToPanic _ _ plans]
  exact SameUpToPanic.settle (.mk plans)

theorem SameUpToPanic.begin (alike : SameUpToPanic run run') :
    SameUpToPanic run.begin run'.begin := by
  obtain @⟨plan', plans⟩ := alike
  cases panicked : run.observer.panic? run.request.started with
  | some payload =>
    rw [begin_refused run panicked, begin_refused { run with plan := plan' } panicked]
    exact .mk plans
  | none =>
    rw [begin_proceeds run panicked, begin_proceeds { run with plan := plan' } panicked]
    generalize run.observer.emit run.crew.log run.request.started = log
    let fresh := { run with
      crew := .ofCounts run.request.target.toNat run.request.effectiveWorkers.toNat log }
    have same : SameUpToPanic fresh { fresh with plan := plan' } := .mk plans
    exact same.proceed _

theorem SameUpToPanic.finish (alike : SameUpToPanic run run') {items items' : List (Nat × Outcome)}
    (pairs : List.Forall₂ (fun item item' => item'.1 = item.1 ∧ item.2.SameUpToPanic item'.2) items
      items') :
    SameUpToPanic (run.finish items).1 (run'.finish items').1 ∧
      (run'.finish items').2 = (run.finish items).2 := by
  obtain @⟨plan', plans⟩ := alike
  simp only [Run.finish, Crew.release_sameUpToPanic _ _ pairs]
  refine ⟨?_, trivial⟩
  let released := { run with crew := (run.crew.release run.observer items).1 }
  have same : SameUpToPanic released { released with plan := plan' } := .mk plans
  exact same.proceed _

theorem SameUpToPanic.move (alike : SameUpToPanic run run') {step step' : Step}
    (steps : step.SameUpToPanic step') :
    SameUpToPanic (run.move step).1 (run'.move step').1 ∧
      (run'.move step').2 = (run.move step).2 := by
  have finishes {items items' : List (Nat × Outcome)} (pairs : List.Forall₂
      (fun item item' => item'.1 = item.1 ∧ item.2.SameUpToPanic item'.2) items items') :
      SameUpToPanic (run.finish items).1 (run'.finish items').1 ∧
        ({ ignored := (run'.finish items').2 } : Response) =
          { ignored := (run.finish items).2 } := by
    obtain ⟨after, same⟩ := alike.finish pairs
    exact ⟨after, by rw [same]⟩
  cases steps with
  | finish pairs => exact finishes pairs
  | finishAll pairs =>
    have inFlight : run'.crew.inFlight = run.crew.inFlight := by cases alike; rfl
    refine finishes ?_
    rw [inFlight, List.forall₂_map_left_iff, List.forall₂_map_right_iff, List.forall₂_same]
    exact fun attempt _ => ⟨rfl, pairs attempt⟩
  | same step =>
    cases step with
    | finish items =>
      exact finishes (List.forall₂_same.2 fun item _ => ⟨rfl, .same item.2⟩)
    | finishAll outcome =>
      have inFlight : run'.crew.inFlight = run.crew.inFlight := by cases alike; rfl
      refine finishes ?_
      rw [inFlight]
      exact List.forall₂_same.2 fun item _ => ⟨rfl, .same item.2⟩
    | wait => exact ⟨alike, rfl⟩
    | cancel =>
      obtain ⟨plans⟩ := alike
      refine ⟨?_, rfl⟩
      simp only [Run.move, Run.cancel]
      split
      · exact .mk plans
      · exact .mk plans
    | shutdown =>
      obtain ⟨plans⟩ := alike
      exact ⟨SameUpToPanic.settle (.mk plans), rfl⟩
    | receive | closeReceiver =>
      obtain ⟨plans⟩ := alike
      exact ⟨.mk plans, rfl⟩

theorem SameUpToPanic.step (alike : SameUpToPanic run run') {step step' : Step}
    (steps : step.SameUpToPanic step') :
    SameUpToPanic (run.step step).1 (run'.step step').1 ∧
      (run'.step step').2 = (run.step step).2 := by
  have size : run'.crew.log.size = run.crew.log.size := by cases alike; rfl
  obtain ⟨moved, same⟩ := alike.move steps
  simp only [Run.step, size, same]
  generalize (run.move step).1 = after at moved
  generalize (run'.move step').1 = after' at moved
  obtain ⟨plans⟩ := moved
  exact ⟨.mk plans, rfl⟩

theorem SameUpToPanic.steps (alike : SameUpToPanic run run') {steps steps' : List Step}
    (pairs : List.Forall₂ Step.SameUpToPanic steps steps') :
    SameUpToPanic (run.steps steps).1 (run'.steps steps').1 ∧
      (run'.steps steps').2 = (run.steps steps).2 := by
  induction pairs generalizing run run' with
  | nil => exact ⟨alike, rfl⟩
  | @cons step step' rest rest' first _ ih =>
    have size : run'.crew.log.size = run.crew.log.size := by cases alike; rfl
    obtain ⟨stepped, response⟩ := alike.step first
    obtain ⟨after, entries⟩ := ih stepped
    refine ⟨after, ?_⟩
    simp only [Run.steps, entries, response, size]
    generalize (run.step step).1 = now at stepped
    generalize (run'.step step').1 = now' at stepped
    cases stepped
    rfl

theorem sameUpToPanic_start (request : Request) (level : Option Level) {plan plan' : Plan}
    (plans : plan.SameUpToPanic plan') (pool : Pool) :
    SameUpToPanic (start request level plan pool).1 (start request level plan' pool).1 ∧
      (start request level plan' pool).2 = (start request level plan pool).2 := by
  have origin : SameUpToPanic (ofRequest request level plan pool)
      (ofRequest request level plan' pool) :=
    .mk plans
  simp only [start]
  cases request.invalid? with
  | some error => exact ⟨.mk plans, rfl⟩
  | none =>
    have begun := origin.begin
    dsimp only
    generalize (ofRequest request level plan pool).begin = run at begun
    generalize (ofRequest request level plan' pool).begin = run' at begun
    obtain ⟨plans⟩ := begun
    exact ⟨.mk plans, rfl⟩

theorem finishLowest_sameUpToPanic {outcomes outcomes' : Nat → Outcome}
    (pairs : ∀ call, (outcomes call).SameUpToPanic (outcomes' call)) (count : Nat) (run : Run) :
    run.finishLowest outcomes' count = run.finishLowest outcomes count := by
  induction count generalizing run with
  | zero => rfl
  | succ count ih =>
    simp only [finishLowest]
    cases run.lowestInFlight? with
    | none => rfl
    | some lowest => simp only [(pairs lowest.2).onThread, ih]

/-- Nobody can tell in which way an attempt panics, or whether it returns the error that would have
been made of its panic: all that a warm-up shows is the same, and so is what has become of its crew,
its pool and its handler's events. It does not matter how many attempts there are of this kind, in
which order the workers of a crew take their steps, or whether calls on threads are meant. -/
theorem panics_are_failures {request : Request} {level : Option Level} {plan plan' : Plan}
    {pool : Pool} {steps steps' : List Step} (plans : plan.SameUpToPanic plan')
    (pairs : List.Forall₂ Step.SameUpToPanic steps steps') :
    (play request level plan' pool steps').2 = (play request level plan pool steps).2 ∧
      (play request level plan' pool steps').1 =
        { (play request level plan pool steps).1 with plan := plan' } ∧
      (∀ actions actions' : List Action, List.Forall₂ Action.SameUpToPanic actions actions' →
        let observer := Observer.ofRequest request level
        (request.crew observer).run observer actions' =
          (request.crew observer).run observer actions) ∧
      ∀ outcomes outcomes' : Nat → Outcome,
        (∀ call, (outcomes call).SameUpToPanic (outcomes' call)) →
        blocking request level outcomes' pool = blocking request level outcomes pool := by
  obtain ⟨started, response⟩ := sameUpToPanic_start request level plans pool
  obtain ⟨ended, entries⟩ := started.steps pairs
  have begins : (start request level plan' pool).1.entry 0 (start request level plan' pool).2 =
      (start request level plan pool).1.entry 0 (start request level plan pool).2 := by
    rw [response]
    generalize (start request level plan pool).1 = run at started
    generalize (start request level plan' pool).1 = run' at started
    cases started
    rfl
  have planned : (play request level plan' pool steps').1.plan = plan' :=
    (inPhase_play request level plan' pool steps').planned
  refine ⟨congrArg₂ List.cons begins entries, ?_, fun actions actions' same => ?_,
    fun outcomes outcomes' same => ?_⟩
  · have last : SameUpToPanic (play request level plan pool steps).1
        (play request level plan' pool steps').1 := ended
    generalize (play request level plan' pool steps').1 = run' at last planned
    cases last
    rw [← planned]
  · exact Crew.run_sameUpToPanic _ _ same
  · exact finishLowest_sameUpToPanic same _ _

/-- A handler that panics when it hears of the second attempt, and a pool that panics in its first
call, see three attempts break down in three ways. -/
theorem panics_are_failures_threefold :
    let handler : Handler :=
      .callback (PanicRule.first? [⟨"ConnectionAttemptFailed", some 1, none⟩])
    let request : Request := ⟨4, 2, false, some "main", some handler⟩
    let pool : Pool := .recording 0 0 (some 1) none
    let lost : Payload := .text "lost"
    let plan : Plan := fun attempt => if attempt = 3 then some (.earlyPanic .unreadable) else none
    let plan' : Plan := fun attempt =>
      if attempt = 3 then some (.fail (.ofPanic .unreadable)) else none
    let steps : List Step := [.finish [(1, .panic lost), (0, .earlyPanic lost)], .finishAll fun _ =>
      .ok "c"]
    let steps' : List Step := [.finish [(1, .fail (.ofPanic lost)), (0, .panic lost)],
      .finishAll fun _ => .ok "c"]
    let run := (play request (some .trace) plan pool steps).1
    let run' := (play request (some .trace) plan' pool steps').1
    run.conclusion = some (.panicked (.text "pool: accept")) ∧
      run.crew.stages = #[.ended .stopped, .ended (.panicked (.text
        "handler: ConnectionAttemptFailed"))] ∧
      run.crew.firstFailure.kept = some ⟨1, .ofPanic lost⟩ ∧
      run'.crew.log = run.crew.log ∧ run'.conclusion = run.conclusion := by
  intro handler request pool lost plan plan' steps steps' run run'
  have plans : plan.SameUpToPanic plan' := by
    intro attempt
    by_cases last : attempt = 3
    · simp only [plan, plan', if_pos last]
      exact .some (.broken .early .returned)
    · simp only [plan, plan', if_neg last]
      exact .none
  have pairs : List.Forall₂ Step.SameUpToPanic steps steps' :=
    .cons (.finish (.cons ⟨rfl, .broken .late .returned⟩ (.cons ⟨rfl, .broken .early .late⟩ .nil)))
      (.cons (.same _) .nil)
  obtain ⟨-, same, -⟩ :=
    @panics_are_failures request (some .trace) plan plan' pool steps steps' plans pairs
  refine ⟨by decide +kernel, by decide +kernel, by decide +kernel, ?_, ?_⟩
  · exact congrArg (·.crew.log) same
  · exact congrArg (·.conclusion) same

end Run

end Preconnect
