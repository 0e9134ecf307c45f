import Preconnect.Proofs.Turns
import Preconnect.Proofs.Whereabouts

/-!
How attempts are handed out. They leave the queue in ascending order, so that those left in it are
the last ones. On a single thread a worker begins what it has taken before anyone else has a turn,
so that between turns the attempts left in the queue are all that were never begun.
-/
namespace Preconnect

theorem range_eq_append {taken target : Nat} (bound : taken ≤ target) :
    List.range target = List.range taken ++ List.range' taken (target - taken) := by
  have joined := @List.range'_append_1 0 taken (target - taken)
  rw [Nat.zero_add, Nat.add_sub_cancel' bound] at joined
  rw [List.range_eq_range', List.range_eq_range', joined]

namespace Crew

variable {observer : Observer} {supply : Supply} {request : Request} {plan : Plan}
  {action : Action} {origin crew crew' : Crew}

/-- The queue holds the attempts from one on, up to the target. -/
def HoldsLast (target : Nat) (crew : Crew) : Prop :=
  ∃ taken ≤ target, crew.queue.attempts = List.range' taken (target - taken)

theorem holdsLast_change {target : Nat} (change : Change observer supply action crew crew')
    (h : crew.HoldsLast target) : crew'.HoldsLast target := by
  obtain ⟨taken, bound, queue⟩ := h
  obtain ⟨-, shift⟩ := change
  cases shift with
  | take next =>
    rw [next, eq_comm, List.range'_eq_cons_iff] at queue
    obtain ⟨rfl, left, rest⟩ := queue
    exact ⟨taken + 1, by omega, by rw [queue_setStage, rest, Nat.sub_sub]⟩
  | record => exact ⟨taken, bound, by rwa [queue_setStage, queue_record]⟩
  | start | stop | begin | finish | tell | die | abandon | leave => exact ⟨taken, bound, queue⟩

theorem holdsLast_reached (h : Reached observer supply (request.crew observer) crew) :
    crew.HoldsLast request.target.toNat := by
  refine reached_invariant (HoldsLast request.target.toNat) holdsLast_change h
    ⟨0, Nat.zero_le _, ?_⟩
  rw [Request.crew, ofCounts, Queue.ofTarget, List.range_eq_range', Nat.sub_zero]

/-- Only a worker that is cancelled before it has begun leaves an attempt that nobody will begin. -/
theorem prospects_perm (change : Change observer supply action crew crew')
    (begun : ∀ worker attempt, action = .cancel worker →
      crew.stages[worker]? ≠ some (.assigned attempt)) : crew'.prospects.Perm crew.prospects := by
  refine List.perm_iff_count.2 fun attempt => ?_
  obtain @⟨old, new, shared, h, shift⟩ := change
  have moved := count_gather_set h new Stage.assigned? attempt
  simp only [prospects, List.count_append, stages_setStage, shift.stages]
  cases shift with
  | take taken =>
    simp [taken, List.count_cons] at moved ⊢
    omega
  | @abandon worker lost _ held =>
    cases old with
    | assigned other => exact absurd h (begun worker other rfl)
    | waiting | settled =>
      simp at moved ⊢
      omega
    | fresh | idle | recorded | ended => cases held
  | @leave worker _ alive free =>
    cases old with
    | assigned other => cases free
    | fresh | idle | waiting | settled | recorded | ended =>
      simp at moved ⊢
      omega
  | start | stop | begin | finish | record | tell | die =>
    simp at moved ⊢
    omega

theorem prospects_step
    (begun : ∀ worker attempt, action = .cancel worker →
      crew.stages[worker]? ≠ some (.assigned attempt)) :
    (crew.step observer action).prospects.Perm crew.prospects := by
  rcases step_eq_or_change observer (allows_anything crew action) with same | change
  · rw [same]
  · exact prospects_perm change begun

theorem prospects_turn (observer : Observer) (plan : Plan) (worker : Nat) (crew : Crew) :
    (crew.turn observer plan worker).prospects.Perm crew.prospects := by
  refine turn_invariant (fun after => after.prospects.Perm crew.prospects)
    (fun before action next ih => (prospects_step fun other attempt cancels => ?_).trans ih)
    (.refl _)
  subst cancels
  rcases own_of_next next with impossible | ⟨outcome, impossible⟩ <;> cases impossible

theorem prospects_turns (observer : Observer) (plan : Plan) (workers : List Nat) (crew : Crew) :
    (crew.turns observer plan workers).prospects.Perm crew.prospects :=
  turns_invariant (fun after => after.prospects.Perm crew.prospects)
    (fun worker sofar => (prospects_turn observer plan worker _).trans sofar) workers (.refl _)

theorem prospects_release (observer : Observer) (crew : Crew) (items : List (Nat × Outcome)) :
    (crew.release observer items).1.prospects.Perm crew.prospects := by
  refine release_invariant (fun after => after.prospects.Perm crew.prospects) items
    (fun item _ _ sofar => (prospects_step ?_).trans sofar) (.refl _)
  exact fun _ _ cancels => by cases cancels

def Begun (crew : Crew) : Prop :=
  ∀ (worker : Nat) (attempt : Nat), crew.stages[worker]? ≠ some (.assigned attempt)

theorem begun_of_rests (rests : ∀ worker, Rests plan crew worker) : crew.Begun := by
  intro worker attempt here
  have rest := rests worker
  rw [Rests, here] at rest
  cases rest

theorem begun_cancel (h : crew.Begun) (worker : Nat) :
    (crew.step observer (.cancel worker)).Begun := by
  intro other attempt here
  by_cases same : other = worker
  · subst same
    cases ended_step_cancel observer crew other _ here
  · rw [stages_step_of_ne same] at here
    exact h other attempt here

theorem prospects_cancelAll (observer : Observer) (h : crew.Begun) :
    (crew.cancelAll observer).prospects.Perm crew.prospects := by
  refine (cancelAll_invariant
    (fun after => after.Begun ∧ after.prospects.Perm crew.prospects) (fun worker sofar => ?_)
    ⟨h, .refl _⟩).2
  obtain ⟨begun, same⟩ := sofar
  exact ⟨begun_cancel begun worker,
    (prospects_step fun other attempt _ => begun other attempt).trans same⟩

theorem queue_eq_of_begun (h : crew.Begun) (last : crew.HoldsLast request.target.toNat)
    (all : crew.prospects.Perm (List.range request.target.toNat)) :
    crew.queue.attempts =
      (List.range request.target.toNat).filter fun attempt => attempt ∉ crew.log.began := by
  obtain ⟨taken, bound, queue⟩ := last
  have unassigned : gather crew.stages Stage.assigned? = [] := by
    rw [gather, List.filterMap_eq_nil_iff]
    intro stage member
    obtain ⟨worker, here⟩ := List.mem_iff_getElem?.1 member
    rw [Array.getElem?_toList] at here
    cases stage with
    | assigned attempt => exact absurd here (h worker attempt)
    | fresh | idle | waiting | settled | recorded | ended => rfl
  rw [prospects, unassigned, List.append_nil, queue, range_eq_append bound,
    List.perm_append_right_iff] at all
  rw [queue, range_eq_append bound, List.filter_append]
  have early : (List.range taken).filter (fun attempt => attempt ∉ crew.log.began) = [] := by
    simp [List.filter_eq_nil_iff, all.mem_iff]
  have late : (List.range' taken (request.target.toNat - taken)).filter
      (fun attempt => attempt ∉ crew.log.began) =
        List.range' taken (request.target.toNat - taken) := by
    rw [List.filter_eq_self]
    intro attempt member
    have := (List.mem_range'_1.1 member).1
    simp [all.mem_iff, this]
  rw [early, late, List.nil_append]

end Crew

end Preconnect
