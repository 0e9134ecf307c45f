import Preconnect.Proofs.Aftermath

/-!
Labor and what comes of it. All that is decided in a run is heeded by the crew alone, and only when
nobody is left does the run come to a settlement, or to an end without one.
-/
namespace Preconnect

def Step.givesUp : Step → Bool
  | cancel => true
  | finish _ | finishAll _ | wait | shutdown | receive _ | closeReceiver => false

/-- The work of a crew, as far as it has come. -/
structure Labor where
  crew : Crew
  /-- The last decision that the crew heeded was to give the warm-up up. -/
  givenUp : Bool := false

namespace Crew

def resume (observer : Observer) (plan : Plan) (crew : Crew) (items : List (Nat × Outcome)) :
    Crew :=
  (crew.release observer items).1.turns observer plan (crew.release observer items).2.1

/-- What a decision means for a crew. -/
def heed (observer : Observer) (plan : Plan) (crew : Crew) : Step → Crew
  | .finish items => crew.resume observer plan items
  | .finishAll outcome =>
    crew.resume observer plan (crew.inFlight.map fun attempt => (attempt, outcome attempt))
  | .cancel | .shutdown => crew.cancelAll observer
  | .wait | .receive _ | .closeReceiver => crew

theorem grows_heed (observer : Observer) (plan : Plan) (crew : Crew) (step : Step) :
    crew.log.Grows (crew.heed observer plan step).log := by
  cases step with
  | finish | finishAll => exact grows_released observer plan crew _
  | cancel | shutdown => exact grows_cancelAll observer crew
  | wait | receive | closeReceiver => exact .refl _

end Crew

namespace Labor

def heed (observer : Observer) (plan : Plan) (labor : Labor) (step : Step) : Labor :=
  if labor.crew.isOver then labor else ⟨labor.crew.heed observer plan step, step.givesUp⟩

def result (request : Request) (observer : Observer) (pool : Pool) (labor : Labor) :
    Crew × Pool × Option Conclusion :=
  if labor.crew.isOver then
    if labor.givenUp then (labor.crew.dropped, pool, some .cancelled)
    else
      let (crew, pool, conclusion) := labor.crew.settle request observer pool
      (crew, pool, some conclusion)
  else (labor.crew, pool, none)

variable {request : Request} {observer : Observer} {pool : Pool} {labor : Labor}

theorem result_of_alive (labor : Labor) (alive : labor.crew.isOver = false) :
    labor.result request observer pool = (labor.crew, pool, none) := by
  rw [result, alive]
  rfl

theorem result_of_givenUp (labor : Labor) (allOver : labor.crew.isOver = true)
    (givenUp : labor.givenUp = true) :
    labor.result request observer pool = (labor.crew.dropped, pool, some .cancelled) := by
  rw [result, if_pos allOver, if_pos givenUp]

theorem result_of_done (labor : Labor) (allOver : labor.crew.isOver = true)
    (done : labor.givenUp = false) :
    labor.result request observer pool =
      ((labor.crew.settle request observer pool).1, (labor.crew.settle request observer pool).2.1,
        some (labor.crew.settle request observer pool).2.2) := by
  rw [result, if_pos allOver, done]
  rfl

theorem grows_heed (observer : Observer) (plan : Plan) (labor : Labor) (step : Step) :
    labor.crew.log.Grows (labor.heed observer plan step).crew.log := by
  unfold heed
  split
  · exact .refl _
  · exact Crew.grows_heed observer plan labor.crew step

theorem grows_foldl (observer : Observer) (plan : Plan) (labor : Labor) (steps : List Step) :
    labor.crew.log.Grows (steps.foldl (heed observer plan) labor).crew.log := by
  induction steps generalizing labor with
  | nil => exact .refl _
  | cons step rest ih => exact (grows_heed observer plan labor step).trans (ih _)

theorem grows_result (request : Request) (observer : Observer) (pool : Pool) (labor : Labor) :
    labor.crew.log.Grows (labor.result request observer pool).1.log := by
  unfold result
  split
  · split
    · exact Log.grows_drop _ _
    · exact Crew.grows_settle request observer labor.crew pool
  · exact .refl _

end Labor

def Crew.labor (observer : Observer) (plan : Plan) (crew : Crew) (steps : List Step) : Labor :=
  steps.foldl (Labor.heed observer plan)
    { crew := crew.turns observer plan (List.range crew.stages.size) }

namespace Crew

variable {observer : Observer} {plan : Plan} {crew : Crew} {labor : Labor}

/-- What turns, releases and cancellations keep is kept whatever is decided. -/
theorem heeds_invariant (holds : Crew → Prop)
    (turn : ∀ {crew : Crew} (worker : Nat), holds crew → holds (crew.turn observer plan worker))
    (release : ∀ {crew : Crew} (items : List (Nat × Outcome)), holds crew →
      holds (crew.release observer items).1)
    (cancelAll : ∀ {crew : Crew}, holds crew → holds (crew.cancelAll observer))
    (steps : List Step) (h : holds labor.crew) :
    holds (steps.foldl (Labor.heed observer plan) labor).crew := by
  induction steps generalizing labor with
  | nil => exact h
  | cons step rest ih =>
    apply ih
    unfold Labor.heed
    split
    · exact h
    · cases step with
      | finish | finishAll => exact turns_invariant holds turn _ (release _ h)
      | cancel | shutdown => exact cancelAll h
      | wait | receive | closeReceiver => exact h

theorem heeds_of_step (holds : Crew → Prop)
    (step : ∀ {crew : Crew} (action : Action), holds crew → holds (crew.step observer action))
    (steps : List Step) (h : holds labor.crew) :
    holds (steps.foldl (Labor.heed observer plan) labor).crew := by
  refine heeds_invariant holds (fun worker h => ?_) (fun items h => ?_) (fun h => ?_) steps h
  · exact turn_invariant holds (fun before action _ => step action) h
  · exact release_invariant holds items (fun _ _ _ => step _) h
  · exact cancelAll_invariant holds (fun _ => step _) h

end Crew

namespace Run

open Crew

variable {request : Request} {observer : Observer} {plan : Plan} {pool : Pool} {labor : Labor}
  {run : Run}

/-- The run is of the request, and what it shows is what comes of the labor. -/
structure HasResultOf (request : Request) (observer : Observer) (plan : Plan) (pool : Pool)
    (labor : Labor) (run : Run) : Prop where
  ofRequest : run.request = request
  watched : run.observer = observer
  planned : run.plan = plan
  result : (run.crew, run.pool, run.conclusion) = labor.result request observer pool

theorem HasResultOf.outlet (hasResult : HasResultOf request observer plan pool labor run)
    (outlet : Outlet) :
    HasResultOf request observer plan pool labor { run with outlet } :=
  ⟨hasResult.ofRequest, hasResult.watched, hasResult.planned, hasResult.result⟩

theorem HasResultOf.eq_of_alive (hasResult : HasResultOf request observer plan pool labor run)
    (alive : labor.crew.isOver = false) :
    run = ⟨request, observer, plan, labor.crew, pool, run.outlet, none⟩ := by
  obtain ⟨request, observer, plan, crew, after, outlet, conclusion⟩ := run
  obtain ⟨rfl, rfl, rfl, result⟩ := hasResult
  rw [labor.result_of_alive alive] at result
  cases result
  rfl

theorem HasResultOf.unfinished (hasResult : HasResultOf request observer plan pool labor run)
    (alive : labor.crew.isOver = false) : run.conclusion = none :=
  congrArg Run.conclusion (hasResult.eq_of_alive alive)

theorem HasResultOf.isOver (hasResult : HasResultOf request observer plan pool labor run)
    (concluded : run.conclusion.isSome = true) : labor.crew.isOver = true := by
  apply Bool.of_not_eq_false
  intro alive
  simp [hasResult.unfinished alive] at concluded

theorem HasResultOf.dropped (hasResult : HasResultOf request observer plan pool labor run)
    (allOver : labor.crew.isOver = true) (givenUp : labor.givenUp = true) :
    run.crew = labor.crew.dropped ∧ run.conclusion = some .cancelled := by
  have result := hasResult.result
  rw [labor.result_of_givenUp allOver givenUp] at result
  exact ⟨congrArg (·.1) result, congrArg (·.2.2) result⟩

theorem HasResultOf.settled (hasResult : HasResultOf request observer plan pool labor run)
    (allOver : labor.crew.isOver = true) (done : labor.givenUp = false) :
    run.crew = (labor.crew.settle request observer pool).1 ∧
      run.conclusion = some (labor.crew.settle request observer pool).2.2 := by
  have result := hasResult.result
  rw [labor.result_of_done allOver done] at result
  exact ⟨congrArg (·.1) result, congrArg (·.2.2) result⟩

theorem HasResultOf.hasEnded (hasResult : HasResultOf request observer plan pool labor run)
    (allOver : labor.crew.isOver = true) : run.HasEnded := by
  cases givenUp : labor.givenUp with
  | true =>
    obtain ⟨crew, conclusion⟩ := hasResult.dropped allOver givenUp
    refine ⟨by rw [conclusion]; rfl, ?_⟩
    rw [crew]
    exact allOver
  | false =>
    obtain ⟨crew, conclusion⟩ := hasResult.settled allOver givenUp
    refine ⟨by rw [conclusion]; rfl, ?_⟩
    rwa [crew, Crew.isOver, stages_settle]

theorem hasResultOf_settle (crew : Crew) (outlet : Outlet) :
    HasResultOf request observer plan pool { crew }
      (settle ⟨request, observer, plan, crew, pool, outlet, none⟩) := by
  unfold settle
  cases allOver : crew.isOver with
  | true =>
    exact ⟨rfl, rfl, rfl, (Labor.result_of_done { crew } allOver rfl).symm⟩
  | false =>
    exact ⟨rfl, rfl, rfl, (Labor.result_of_alive { crew } allOver).symm⟩

theorem hasResultOf_heed (request : Request) (observer : Observer) (plan : Plan) (pool : Pool)
    {crew : Crew} (alive : crew.isOver = false) (outlet : Outlet)
    (step : Step) :
    HasResultOf request observer plan pool ⟨crew.heed observer plan step, step.givesUp⟩
      (move ⟨request, observer, plan, crew, pool, outlet, none⟩ step).1 := by
  cases step with
  | finish | finishAll => exact hasResultOf_settle _ outlet
  | shutdown => exact hasResultOf_settle _ outlet.shutdown
  | cancel =>
    exact ⟨rfl, rfl, rfl, (Labor.result_of_givenUp
      ⟨crew.cancelAll observer, true⟩ (isOver_cancelAll observer crew) rfl).symm⟩
  | wait | receive | closeReceiver =>
    exact ⟨rfl, rfl, rfl, (Labor.result_of_alive ⟨crew, false⟩ alive).symm⟩

theorem HasResultOf.step (hasResult : HasResultOf request observer plan pool labor run)
    (step : Step) :
    HasResultOf request observer plan pool (labor.heed observer plan step) (run.step step).1 := by
  rw [Labor.heed]
  cases allOver : labor.crew.isOver with
  | true =>
    -- A labor that is done heeds nothing, and a run that is over moves its outlet only.
    obtain ⟨outlet, same⟩ := (hasResult.hasEnded allOver).step step
    rw [if_pos rfl, same]
    exact hasResult.outlet outlet
  | false =>
    rw [hasResult.eq_of_alive allOver]
    exact (hasResultOf_heed request observer plan pool allOver run.outlet step).outlet _

theorem HasResultOf.steps (hasResult : HasResultOf request observer plan pool labor run)
    (steps : List Step) :
    HasResultOf request observer plan pool (steps.foldl (Labor.heed observer plan) labor)
      (run.steps steps).1 := by
  induction steps generalizing labor run with
  | nil => exact hasResult
  | cons step rest ih => exact ih (hasResult.step step)

/-- A run that begins shows what comes of the labor of its crew. -/
theorem hasResultOf_play {level : Option Level} (begins : request.Begins (.ofRequest request level))
    (plan : Plan) (pool : Pool) (steps : List Step) :
    HasResultOf request (.ofRequest request level) plan pool
      ((request.crew (.ofRequest request level)).labor (.ofRequest request level) plan steps)
      (play request level plan pool steps).1 := by
  refine HasResultOf.steps ?_ steps
  have size : (request.crew (.ofRequest request level)).stages.size =
      request.effectiveWorkers.toNat := by
    simp [Request.crew, ofCounts]
  simp only [begins.valid]
  rw [begin_proceeds (ofRequest request level plan pool) begins.returned, size]
  exact (hasResultOf_settle _ _).outlet _

end Run

end Preconnect
