import Mathlib.Algebra.Ring.Int.Defs
import Preconnect.Proofs.Schedule

/-!
How many attempts are in flight at once. There are never more of them than workers, and at rest
there are as many as there can be: whoever is left has an attempt in flight, and as long as attempts
are queued everybody is left who has not come to harm.
-/
namespace Preconnect

def Happening.flight? : Happening → Option Int
  | began .. => some 1
  | finished .. | abandoned .. => some (-1)
  | neverRun _ | traced _ | emitted _ | called _ | dropped _ => none

attribute [simp] Happening.flight?

@[simp] theorem ofWork_flight? : OfWork Happening.flight? := by
  rintro (_ | _) <;> simp

def raise (sofar : Int × Nat) (change : Int) : Int × Nat :=
  (sofar.1 + change, max sofar.2 (sofar.1 + change).toNat)

def peak (changes : List Int) : Nat := (changes.foldl raise (0, 0)).2

theorem foldl_raise_fst (changes : List Int) (sofar : Int × Nat) :
    (changes.foldl raise sofar).1 = sofar.1 + changes.sum := by
  induction changes generalizing sofar with
  | nil => simp
  | cons change rest ih =>
    rw [List.foldl_cons, ih, List.sum_cons, raise]
    omega

theorem peak_concat (changes : List Int) (change : Int) :
    peak (changes ++ [change]) = max (peak changes) (changes.sum + change).toNat := by
  have now := foldl_raise_fst changes (0, 0)
  rw [Int.zero_add] at now
  rw [peak, List.foldl_append, List.foldl_cons, List.foldl_nil, raise, now, peak]

theorem foldl_raise_flights (happenings : List Happening) (sofar : Int × Nat)
    (start : sofar.1.toNat ≤ sofar.2) :
    happenings.foldl (fun sofar happening => raise sofar happening.inFlightChange) sofar =
      (happenings.filterMap Happening.flight?).foldl raise sofar := by
  induction happenings generalizing sofar with
  | nil => rfl
  | cons happening rest ih =>
    have above (change : Int) : (raise sofar change).1.toNat ≤ (raise sofar change).2 :=
      Nat.le_max_right _ _
    rw [List.foldl_cons]
    cases happening with
    | began => exact ih _ (above 1)
    | finished | abandoned => exact ih _ (above (-1))
    | neverRun | traced | emitted | called | dropped =>
      have same : raise sofar 0 = sofar := by
        rw [raise, Int.add_zero, Nat.max_eq_left start]
      rw [Happening.inFlightChange, same]
      · exact ih sofar start
      all_goals simp

theorem Log.mostInFlight_eq_peak (log : Log) :
    log.mostInFlight = peak (log.view Happening.flight?) := by
  rw [peak, view, ← foldl_raise_flights log.toList (0, 0) (Nat.le_refl 0), toList,
    Array.foldl_toList]
  rfl

namespace Crew

variable {request : Request} {observer : Observer} {supply : Supply} {plan : Plan}
  {action : Action} {crew crew' : Crew}

theorem length_gather_set {stages : Array Stage} {worker : Nat} {old : Stage}
    (h : stages[worker]? = some old) (new : Stage) (find : Stage → Option Nat) :
    (gather (stages.setIfInBounds worker new) find).length + (find old).toList.length =
      (gather stages find).length + (find new).toList.length := by
  have moved : (gather (stages.setIfInBounds worker new) find ++ (find old).toList).Perm
      (gather stages find ++ (find new).toList) := by
    refine List.perm_iff_count.2 fun attempt => ?_
    rw [List.count_append, List.count_append]
    exact count_gather_set h new find attempt
  have := moved.length_eq
  rwa [List.length_append, List.length_append] at this

theorem length_gather_le (stages : Array Stage) {α : Type} (find : Stage → Option α) :
    (gather stages find).length ≤ stages.size :=
  List.length_filterMap_le find stages.toList

/-- The log counts no attempt as in flight that no worker has begun. An attempt that is cancelled
before it has begun is even counted as one less. -/
theorem flights_change (change : Change observer supply action crew crew')
    (h : (crew.log.view Happening.flight?).sum ≤ (gather crew.stages Stage.begun?).length) :
    (crew'.log.view Happening.flight?).sum ≤ (gather crew'.stages Stage.begun?).length := by
  obtain @⟨old, new, shared, here, shift⟩ := change
  have moved := length_gather_set here new Stage.begun?
  rw [stages_setStage, shift.stages]
  cases shift with
  | abandon held =>
    cases old with
    | assigned | waiting | settled =>
      simp at moved ⊢
      omega
    | fresh | idle | recorded | ended => cases held
  | leave alive free =>
    cases old with
    | waiting | settled => cases free
    | fresh | idle | assigned | recorded | ended =>
      simp at moved ⊢
      omega
  | start | take | stop | begin | finish | record | tell | die =>
    simp at moved ⊢
    omega

theorem peak_change (change : Change observer supply action crew crew')
    (flights : (crew'.log.view Happening.flight?).sum ≤ (gather crew'.stages Stage.begun?).length)
    (h : peak (crew.log.view Happening.flight?) ≤ crew.stages.size) :
    peak (crew'.log.view Happening.flight?) ≤ crew'.stages.size := by
  have bound := length_gather_le crew'.stages Stage.begun?
  rw [change.size_stages] at bound ⊢
  have step : crew'.log.view Happening.flight? = crew.log.view Happening.flight? ∨
      ∃ change, crew'.log.view Happening.flight? =
        crew.log.view Happening.flight? ++ [change] := by
    obtain ⟨-, shift⟩ := change
    cases shift with
    | begin => exact .inr ⟨1, by simp⟩
    | record | abandon => exact .inr ⟨-1, by simp⟩
    | start | take | stop | finish | tell | die | leave => exact .inl (by simp)
  rcases step with same | ⟨change, more⟩
  · rwa [same]
  · rw [more, List.sum_append, List.sum_singleton] at flights
    rw [more, peak_concat]
    omega

theorem peak_reached (h : Reached observer supply (request.crew observer) crew) :
    peak (crew.log.view Happening.flight?) ≤ request.effectiveWorkers.toNat := by
  have bounded : (crew.log.view Happening.flight?).sum ≤ (gather crew.stages Stage.begun?).length ∧
      peak (crew.log.view Happening.flight?) ≤ crew.stages.size := by
    refine reached_invariant (fun crew =>
      (crew.log.view Happening.flight?).sum ≤ (gather crew.stages Stage.begun?).length ∧
        peak (crew.log.view Happening.flight?) ≤ crew.stages.size) (fun change ih => ?_) h ?_
    · have flights := flights_change change ih.1
      exact ⟨flights, peak_change change flights ih.2⟩
    · rw [view_crew ofWork_flight?]
      exact ⟨Int.natCast_nonneg _, Nat.zero_le _⟩
  rw [← size_reached h]
  exact bounded.2

theorem length_inFlight (crew : Crew) :
    crew.inFlight.length = (gather crew.stages Stage.inFlight?).length :=
  List.length_mergeSort _

theorem length_inFlight_le (h : Reached observer supply (request.crew observer) crew) :
    crew.inFlight.length ≤ request.effectiveWorkers.toNat := by
  rw [length_inFlight, ← size_reached h]
  exact length_gather_le _ _

/-- The worker has taken the attempt and not recorded what it came to. -/
def Holds (crew : Crew) (worker attempt : Nat) : Prop :=
  ∃ stage : Stage, crew.stages[worker]? = some stage ∧ stage.held? = some attempt

theorem Holds.mem_held {worker attempt : Nat} (h : crew.Holds worker attempt) :
    attempt ∈ crew.held := by
  obtain ⟨stage, here, held⟩ := h
  refine List.mem_filterMap.2 ⟨stage, ?_, held⟩
  exact Array.mem_toList_iff.2 (Array.mem_of_getElem? here)

theorem holder_unique (h : Reached observer supply (request.crew observer) crew)
    {worker other attempt : Nat} (first : crew.Holds worker attempt)
    (second : crew.Holds other attempt) : worker = other := by
  apply Classical.byContradiction
  intro different
  obtain ⟨stage, here, held⟩ := first
  -- Without the first worker's hold on it the attempt would still be held, so it is held twice.
  have without : (crew.setStage worker .idle).Holds other attempt := by
    obtain ⟨stage', here', held'⟩ := second
    refine ⟨stage', ?_, held'⟩
    rw [stages_setStage, Array.getElem?_setIfInBounds_ne different, here']
  have again := List.count_pos_iff.2 without.mem_held
  have moved := count_gather_set here .idle Stage.held? attempt
  have once := List.nodup_iff_count_le_one.1 (@List.nodup_range request.target.toNat) attempt
  rw [← (whereabouts_reached h).count_eq, count_whereabouts] at once
  rw [Crew.held, stages_setStage] at again
  rw [held] at moved
  simp at moved
  omega

/-- Nobody rests who could work. -/
structure AtWork (plan : Plan) (workers : Nat) (crew : Crew) : Prop where
  /-- Whoever is left waits for one attempt, which is in flight and not over at once. -/
  waits : ∀ (worker : Nat) (stage : Stage), crew.stages[worker]? = some stage →
    stage.hasEnded = false →
      ∃ attempt call, stage = .waiting attempt call ∧ plan attempt = none ∧
        attempt ∈ crew.inFlight
  inFlight : crew.inFlight.length + crew.stages.toList.countP Stage.hasEnded = workers
  /-- As long as attempts are queued, nobody has simply stopped. -/
  nobody : crew.queue.attempts ≠ [] → .ended .stopped ∉ crew.stages
  full : crew.queue.attempts ≠ [] → crew.inFlight.length + crew.mishaps.length = workers

theorem length_mishaps (crew : Crew) :
    crew.mishaps.length = crew.stages.toList.countP fun stage => stage.mishap?.isSome := by
  have same : crew.mishaps.map (·.2) = crew.stages.toList.filterMap Stage.mishap? := by
    unfold mishaps
    rw [List.map_filterMap]
    conv_rhs => rw [← List.zipIdx_map_fst 0 crew.stages.toList, List.filterMap_map]
    congr 1
    funext ⟨stage, worker⟩
    simp [Function.comp_def]
  rw [← List.length_map, same, List.length_filterMap_eq_countP]

theorem waiting_of_rests {worker : Nat} {stage : Stage} (rests : Rests plan crew worker)
    (here : crew.stages[worker]? = some stage) (alive : stage.hasEnded = false) :
    ∃ attempt call, stage = .waiting attempt call ∧ plan attempt = none := by
  rw [Rests, here] at rests
  cases stage with
  | waiting attempt call => exact ⟨attempt, call, rfl, Option.map_eq_none_iff.1 rests⟩
  | ended => cases alive
  | fresh | idle | assigned | settled | recorded => cases rests

theorem inFlight?_of_rests {worker : Nat} {stage : Stage} (rests : Rests plan crew worker)
    (here : crew.stages[worker]? = some stage) : stage.inFlight?.isSome = !stage.hasEnded := by
  cases alive : stage.hasEnded with
  | false =>
    obtain ⟨attempt, call, rfl, -⟩ := waiting_of_rests rests here alive
    rfl
  | true =>
    cases stage with
    | ended => rfl
    | fresh | idle | assigned | waiting | settled | recorded => cases alive

theorem mishap?_of_not_stopped {stage : Stage} (h : stage ≠ .ended .stopped) :
    stage.mishap?.isSome = stage.hasEnded := by
  cases stage with
  | ended ending =>
    cases ending with
    | stopped => exact absurd rfl h
    | panicked | cancelled => rfl
  | fresh | idle | assigned | waiting | settled | recorded => rfl

theorem atWork_of_rests (h : Reached observer supply (request.crew observer) crew)
    (rests : ∀ worker, Rests plan crew worker) :
    crew.AtWork plan request.effectiveWorkers.toNat := by
  have present {stage : Stage} (member : stage ∈ crew.stages.toList) :
      ∃ worker : Nat, crew.stages[worker]? = some stage :=
    Array.mem_iff_getElem?.1 (Array.mem_toList_iff.1 member)
  have flying : crew.inFlight.length = crew.stages.toList.countP fun stage => !stage.hasEnded := by
    rw [length_inFlight, gather, List.length_filterMap_eq_countP]
    refine List.countP_congr fun stage member => ?_
    obtain ⟨worker, here⟩ := present member
    rw [inFlight?_of_rests (rests worker) here]
  have total : crew.inFlight.length + crew.stages.toList.countP Stage.hasEnded =
      request.effectiveWorkers.toNat := by
    have both := List.length_eq_countP_add_countP Stage.hasEnded (l := crew.stages.toList)
    rw [Array.length_toList, size_reached h] at both
    simp only [Bool.not_eq_true, Bool.decide_eq_false] at both
    rw [flying, both, Nat.add_comm]
  have nobody : crew.queue.attempts ≠ [] → .ended .stopped ∉ crew.stages := by
    intro queued member
    obtain ⟨worker, here⟩ := Array.mem_iff_getElem?.1 member
    exact queued (stopsLast_reached h worker here)
  refine ⟨fun worker stage here alive => ?_, total, nobody, fun queued => ?_⟩
  · obtain ⟨attempt, call, rfl, unplanned⟩ := waiting_of_rests (rests worker) here alive
    have member := Array.mem_toList_iff.2 (Array.mem_of_getElem? here)
    have begun : attempt ∈ gather crew.stages Stage.begun? :=
      List.mem_filterMap.2 ⟨.waiting attempt call, member, rfl⟩
    exact ⟨attempt, call, rfl, unplanned, inFlight_of_rests rests begun⟩
  · rw [length_mishaps, ← total]
    congr 1
    refine List.countP_congr fun stage member => ?_
    rw [mishap?_of_not_stopped]
    rintro rfl
    exact nobody queued (Array.mem_toList_iff.1 member)

end Crew

namespace Run

open Crew

variable {request : Request} {observer : Observer} {plan : Plan} {supply : Supply}
  {pool after : Pool} {crew : Crew} {conclusion : Option Conclusion}

theorem Phase.mostInFlight_le
    (phase : Phase request observer plan supply pool crew after conclusion) :
    crew.log.mostInFlight ≤ request.effectiveWorkers.toNat := by
  obtain ⟨worked, reached, same, -⟩ := phase.worked
  rw [Log.mostInFlight_eq_peak, same ofWork_flight? fun _ => rfl]
  exact peak_reached reached

theorem Phase.held (phase : Phase request observer plan supply pool crew after conclusion) :
    crew.inFlight.length ≤ request.effectiveWorkers.toNat ∧
      ∀ worker other attempt, crew.Holds worker attempt → crew.Holds other attempt →
        worker = other := by
  cases concludes : conclusion with
  | none =>
    obtain ⟨-, -, paused⟩ := phase.paused concludes
    exact ⟨length_inFlight_le paused.reached,
      fun _ _ _ first second => holder_unique paused.reached first second⟩
  | some ended =>
    rw [concludes] at phase
    have allOver := phase.isOver
    constructor
    · rw [length_inFlight, gather_of_isOver allOver fun _ => rfl]
      exact Nat.zero_le _
    · intro worker other attempt first
      have member := first.mem_held
      rw [Crew.held, gather_of_isOver allOver fun _ => rfl] at member
      cases member

/-- At every point of every interleaving there are at most as many attempts in flight as workers,
and no two workers have the same attempt. Whenever no worker can take a step, all who are left wait
for an attempt, and if any is queued then only those are missing who panicked or were cancelled.
This holds of a run on a single thread after each decision up to its conclusion. -/
theorem concurrency_bounded (request : Request) (level : Option Level) (plan : Plan) (pool : Pool)
    (steps : List Step) :
    let observer := Observer.ofRequest request level
    let workers := (min request.target request.workers).toNat
    let run := (play request level plan pool steps).1
    run.crew.inFlight.length ≤ workers ∧ run.crew.log.mostInFlight ≤ workers ∧
      (∀ worker other attempt, run.crew.Holds worker attempt → run.crew.Holds other attempt →
        worker = other) ∧
      (run.conclusion = none → run.crew.AtWork plan workers) ∧
      ∀ actions : List Action,
        let crew := (request.crew observer).run observer actions
        crew.inFlight.length ≤ workers ∧ crew.log.mostInFlight ≤ workers ∧
          (∀ worker other attempt, crew.Holds worker attempt → crew.Holds other attempt →
            worker = other) ∧
          ((∀ worker, Rests plan crew worker) → crew.AtWork plan workers) := by
  intro observer workers run
  have inPhase : InPhase request observer plan anything pool run :=
    inPhase_play request level plan pool steps
  obtain ⟨bound, distinct⟩ := inPhase.phase.held
  refine ⟨bound, inPhase.phase.mostInFlight_le, distinct, fun ongoing => ?_, fun actions => ?_⟩
  · obtain ⟨-, -, paused⟩ := inPhase.phase.paused ongoing
    exact atWork_of_rests paused.reached paused.rests
  · intro crew
    have reached : Reached observer anything (request.crew observer) crew := reached_run _ actions
    refine ⟨length_inFlight_le reached, ?_, fun _ _ _ first second =>
      holder_unique reached first second, atWork_of_rests reached⟩
    rw [Log.mostInFlight_eq_peak]
    exact peak_reached reached

end Run

end Preconnect
