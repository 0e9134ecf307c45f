import Mathlib.Data.List.Nodup
import Preconnect.Proofs.Joined

/-!
Conservation of attempts. Whatever the workers do in whatever order, every attempt is in exactly one
place, and once they have all ended the counts of a summary add up to the target.
-/
namespace Preconnect.Crew

variable {observer : Observer} {supply : Supply} {request : Request} {crew : Crew}

theorem whereabouts_reached (h : Reached observer supply (request.crew observer) crew) :
    crew.whereabouts.Perm (List.range request.target.toNat) := by
  refine reached_invariant (fun crew => crew.whereabouts.Perm (List.range request.target.toNat))
    (fun change ih => (whereabouts_change change).trans ih) h ?_
  rw [whereabouts_crew]

theorem count_prospects_reached (h : Reached observer supply (request.crew observer) crew)
    (attempt : Nat) :
    crew.prospects.count attempt ≤ (List.range request.target.toNat).count attempt := by
  refine reached_invariant (fun crew => crew.prospects.count attempt ≤ _)
    (fun change ih => Nat.le_trans (prospects_change change attempt) ih) h ?_
  exact Nat.le_of_eq (by rw [prospects_crew])

theorem began_nodup (h : Reached observer supply (request.crew observer) crew) :
    crew.log.began.Nodup := by
  rw [List.nodup_iff_count_le_one]
  intro attempt
  have once := List.nodup_iff_count_le_one.1 (@List.nodup_range request.target.toNat) attempt
  have := Nat.le_trans (count_prospects_reached h attempt) once
  simp only [prospects, List.count_append] at this
  omega

theorem count_results (log : Log) (attempt : Nat) :
    (log.results.map (·.1)).count attempt + log.neverRun.count attempt =
      (log.established.map (·.attempt)).count attempt +
        (log.failures.map (·.attempt)).count attempt := by
  simp only [Log.results, Log.neverRun, Log.established, Log.failures, Log.view]
  induction log.toList with
  | nil => rfl
  | cons happening rest ih =>
    obtain _ | ⟨_, _, _ | _⟩ | _ | _ := happening <;>
      simp [List.filterMap_cons, List.count_cons] at ih ⊢ <;> omega

theorem results_nodup (h : Reached observer supply (request.crew observer) crew) :
    (crew.log.results.map (·.1)).Nodup := by
  rw [List.nodup_iff_count_le_one]
  intro attempt
  have once := List.nodup_iff_count_le_one.1 (@List.nodup_range request.target.toNat) attempt
  rw [← (whereabouts_reached h).count_eq, count_whereabouts] at once
  have := count_results crew.log attempt
  omega

theorem established_nodup (h : Reached observer supply (request.crew observer) crew) :
    (crew.log.established.map (·.attempt)).Nodup := by
  have places := (whereabouts_reached h).nodup_iff.2 List.nodup_range
  refine places.sublist (List.Sublist.trans ?_ (List.sublist_append_left _ _))
  exact (List.sublist_append_right _ _).trans (List.sublist_append_left _ _)

theorem loss_change {action : Action} {crew' : Crew}
    (change : Change observer supply action crew crew')
    (h : ∀ loss ∈ crew.log.view Happening.loss?,
      crew.stages[loss.1]? = some (.ended .cancelled)) :
    ∀ loss ∈ crew'.log.view Happening.loss?,
      crew'.stages[loss.1]? = some (.ended .cancelled) := by
  intro loss member
  by_cases old : loss ∈ crew.log.view Happening.loss?
  · exact change.ended (h loss old)
  · obtain ⟨here, shift⟩ := change
    cases shift with
    | @abandon worker attempt stage held =>
      have : loss = (worker, attempt) := by simpa [old] using member
      subst this
      have hw : worker < crew.stages.size := (Array.getElem?_eq_some_iff.1 here).1
      simp [hw]
    | start | take | stop | begin | finish | record | tell | die | leave =>
      simp [old] at member

theorem abandoned_eq (log : Log) : log.abandoned = (log.view Happening.loss?).map (·.2) := by
  rw [Log.abandoned, Log.view, Log.view, List.map_filterMap]
  congr 1
  funext happening
  cases happening <;> rfl

theorem loss_reached (h : Reached observer supply (request.crew observer) crew) :
    ∀ loss ∈ crew.log.view Happening.loss?,
      crew.stages[loss.1]? = some (.ended .cancelled) := by
  refine reached_invariant (fun crew => ∀ loss ∈ crew.log.view Happening.loss?,
    crew.stages[loss.1]? = some (.ended .cancelled)) loss_change h ?_
  rw [view_crew ofWork_loss?]
  simp

/-- Once no worker is left and nothing is in the queue, every attempt is recorded or lost. -/
theorem joined_perm (h : Reached observer supply (request.crew observer) crew)
    (allOver : crew.isOver = true) :
    (crew.arrivals.held.toList.map (·.attempt) ++
      (crew.joined observer).log.failures.map (·.attempt) ++
      (crew.joined observer).log.abandoned).Perm (List.range request.target.toNat) := by
  have all := (whereabouts_joined observer crew).trans (whereabouts_reached h)
  have kept := (faithful_joined (faithful_reached h) observer).arrivals
  rw [arrivals_joined] at kept
  rw [whereabouts, queue_joined, held, stages_joined, gather_of_isOver allOver fun _ => rfl,
    ← kept] at all
  exact all

theorem length_joined (h : Reached observer supply (request.crew observer) crew)
    (allOver : crew.isOver = true) :
    crew.arrivals.held.size + ((crew.joined observer).log.failures.length +
      (crew.joined observer).log.abandoned.length) = request.target.toNat := by
  have all := (joined_perm h allOver).length_eq
  simp only [List.length_append, List.length_map, List.length_range, Array.length_toList] at all
  omega

theorem toNat_ofNat_of_le {target : UInt32} {count : Nat} (h : count ≤ target.toNat) :
    (UInt32.ofNat count).toNat = count :=
  UInt32.toNat_ofNat_of_lt (Nat.lt_of_le_of_lt h target.toNat_lt)

theorem toNat_sub_ofNat {target : UInt32} {count : Nat} (h : count ≤ target.toNat) :
    (target - UInt32.ofNat count).toNat = target.toNat - count := by
  have small := toNat_ofNat_of_le h
  rw [UInt32.toNat_sub_of_le _ _ (by rw [UInt32.le_iff_toNat_le, small]; exact h), small]

/-- At every point of every interleaving the attempts are divided among the queue, the workers, the
connections, the failures and the losses. When no worker is left, the counts taken then are exact:
neither the number of connections nor its distance to the target leaves its range. -/
theorem attempts_conserved (request : Request) (observer : Observer) (actions : List Action) :
    let crew := (request.crew observer).run observer actions
    let connected := crew.arrivals.held.toList.map (·.attempt)
    (crew.queue.attempts ++ crew.held ++ connected ++ crew.log.failures.map (·.attempt) ++
        crew.log.abandoned).Perm (List.range request.target.toNat) ∧
      (∀ loss ∈ crew.log.view Happening.loss?,
        crew.stages[loss.1]? = some (.ended .cancelled)) ∧
      crew.arrivals.held.toList = crew.log.established ∧
      crew.firstFailure.kept = crew.log.failures.head? ∧
      crew.calls = crew.log.began.length ∧
      crew.log.began.Nodup ∧ (crew.log.results.map (·.1)).Nodup ∧ connected.Nodup ∧
      crew.arrivals.held.size ≤ request.target.toNat ∧
      (crew.isOver = true →
        let joined := (crew.reportMishaps observer).recordNeverRun
        let count := joined.arrivals.drain.1.length
        let missing := joined.log.failures.length + joined.log.abandoned.length
        joined.queue.attempts = [] ∧
          (connected ++ joined.log.failures.map (·.attempt) ++
            joined.log.abandoned).Perm (List.range request.target.toNat) ∧
          count + missing = request.target.toNat ∧
          (UInt32.ofNat count).toNat = count ∧
          (request.target - UInt32.ofNat count).toNat = missing) := by
  intro crew connected
  have reached : Reached observer anything (request.crew observer) crew := reached_run _ actions
  have kept := faithful_reached reached
  have all := whereabouts_reached reached
  rw [whereabouts, ← kept.arrivals] at all
  have distinct : connected.Nodup := by
    have := established_nodup reached
    rwa [← kept.arrivals] at this
  have total : crew.arrivals.held.size ≤ request.target.toNat := by
    have := all.length_eq
    simp at this
    omega
  refine ⟨all, loss_reached reached, kept.arrivals, kept.firstFailure, kept.calls,
    began_nodup reached, results_nodup reached, distinct, total, fun allOver => ?_⟩
  intro joined count missing
  have ended := joined_perm reached allOver
  have size : count = crew.arrivals.held.size := by
    show (crew.joined observer).arrivals.drain.1.length = _
    simp [Arrivals.drain]
  have sum : count + missing = request.target.toNat := by
    rw [size]
    exact length_joined reached allOver
  -- The counts are those of a part of the target, which fits into 32 bits.
  have small : count ≤ request.target.toNat := by omega
  refine ⟨congrArg Queue.attempts (queue_joined observer crew), ended, sum,
    toNat_ofNat_of_le small, ?_⟩
  rw [toNat_sub_ofNat small]
  omega

def skittish : Handler := .callback fun event =>
  match event.notice with
  | .attemptFailed .. => some (.text "no more")
  | _ => none

/-- The handler ends the first worker at a failure, and the second is cancelled in its second
attempt, so that nobody is left for the last one. -/
def unlucky : List Action :=
  [.advance 0, .advance 1, .advance 1, .advance 0, .advance 1, .advance 0,
    .finish 1 (.fail ⟨.establishment "refused"⟩), .finish 0 (.ok "a"), .advance 1, .advance 0,
    .advance 1, .advance 0, .advance 0, .advance 0, .cancel 0]

theorem attempts_conserved_unlucky :
    let crew := (Request.crew ⟨4, 2, true, none, some skittish⟩ { handler := some skittish }).run
      { handler := some skittish } unlucky
    let joined := (crew.reportMishaps { handler := some skittish }).recordNeverRun
    crew.isOver = true ∧ crew.log.established = [⟨1, "a"⟩] ∧ joined.log.abandoned = [2] ∧
      joined.log.failures.map (·.attempt) = [0, 3] ∧
      (UInt32.ofNat joined.arrivals.drain.1.length).toNat = joined.arrivals.drain.1.length := by
  intro crew joined
  have allOver : crew.isOver = true := by decide +kernel
  have conserved := attempts_conserved ⟨4, 2, true, none, some skittish⟩
    { handler := some skittish } unlucky
  obtain ⟨_, _, _, _, _, _, _, _, _, ended⟩ := conserved
  exact ⟨allOver, by decide +kernel, by decide +kernel, by decide +kernel, (ended allOver).2.2.2.1⟩

end Preconnect.Crew
