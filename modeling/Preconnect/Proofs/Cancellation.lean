import Preconnect.Proofs.Labor

/-!
Giving up. A warm-up is concluded as cancelled exactly if a decision gave it up while it went on, so
nothing that comes of the attempts, the pool or the handler can have it look given up.
-/
namespace Preconnect

variable {observer : Observer}

theorem Books.conclude_ne_cancelled (notice : Notice) {conclusion : Conclusion}
    (told : conclusion ≠ .cancelled) (result : Books × Option Payload) :
    (conclude observer notice conclusion result).2 ≠ .cancelled := by
  obtain ⟨books, _ | payload⟩ := result
  · rw [conclude]
    rcases books.emit observer notice with ⟨later, _ | payload⟩
    · exact told
    · exact fun panicked => by cases panicked
  · exact fun panicked => by cases panicked

theorem Crew.settle_ne_cancelled (request : Request) (observer : Observer) (crew : Crew)
    (pool : Pool) : (crew.settle request observer pool).2.2 ≠ .cancelled := by
  rw [settle_eq]
  unfold ending
  dsimp only
  split <;> exact Books.conclude_ne_cancelled _ (fun other => by cases other) _

namespace Run

theorem settle_cancelled_iff (run : Run) :
    run.settle.conclusion = some .cancelled ↔ run.conclusion = some .cancelled := by
  unfold settle
  split
  · rename_i ends
    obtain ⟨ongoing, -⟩ := Bool.and_eq_true_iff.1 ends
    rw [Option.isNone_iff_eq_none.1 ongoing]
    exact iff_of_false
      (fun cancelled => run.crew.settle_ne_cancelled run.request run.observer run.pool
        (Option.some.inj cancelled))
      (fun none => by cases none)
  · rfl

theorem step_cancelled_iff (run : Run) (step : Step) :
    (run.step step).1.conclusion = some .cancelled ↔
      run.conclusion = some .cancelled ∨ (step = .cancel ∧ run.conclusion = none) := by
  cases step with
  | finish | finishAll | shutdown =>
    refine (settle_cancelled_iff _).trans ?_
    simp
  | wait | receive | closeReceiver => simp [Run.step, move, deliverSince]
  | cancel =>
    show run.cancel.conclusion = _ ↔ _
    cases concluded : run.conclusion <;> simp [Run.cancel, concluded]

theorem steps_cancelled_iff (run : Run) (steps : List Step) :
    (run.steps steps).1.conclusion = some .cancelled ↔
      run.conclusion = some .cancelled ∨
        ∃ before after, steps = before ++ .cancel :: after ∧
          (run.steps before).1.conclusion = none := by
  induction steps generalizing run with
  | nil => simp [Run.steps]
  | cons step rest ih =>
    show ((run.step step).1.steps rest).1.conclusion = _ ↔ _
    rw [ih, step_cancelled_iff]
    constructor
    · rintro ((already | ⟨rfl, ongoing⟩) | ⟨before, after, rfl, ongoing⟩)
      · exact .inl already
      · exact .inr ⟨[], rest, rfl, ongoing⟩
      · exact .inr ⟨step :: before, after, rfl, ongoing⟩
    · rintro (already | ⟨_ | ⟨first, before⟩, after, split, ongoing⟩)
      · exact .inl (.inl already)
      · obtain ⟨rfl, rfl⟩ := List.cons.inj split
        exact .inl (.inr ⟨rfl, ongoing⟩)
      · obtain ⟨rfl, rfl⟩ := List.cons.inj split
        exact .inr ⟨before, after, rfl, ongoing⟩

theorem start_ne_cancelled (request : Request) (level : Option Level) (plan : Plan) (pool : Pool) :
    (start request level plan pool).1.conclusion ≠ some .cancelled := by
  intro cancelled
  have opens : (opened request level plan pool).conclusion = some .cancelled := cancelled
  unfold opened at opens
  split at opens
  · cases opens
  · cases panics : (Observer.ofRequest request level).panic? request.started with
    | some payload =>
      rw [begin_refused (ofRequest request level plan pool) panics] at opens
      cases opens
    | none =>
      rw [begin_proceeds (ofRequest request level plan pool) panics] at opens
      cases (settle_cancelled_iff _).1 opens

/-- A run is concluded as cancelled if and only if one of its steps gave it up while it went on. -/
theorem play_cancelled_iff (request : Request) (level : Option Level) (plan : Plan) (pool : Pool)
    (steps : List Step) :
    (play request level plan pool steps).1.conclusion = some .cancelled ↔
      ∃ before after, steps = before ++ .cancel :: after ∧
        (play request level plan pool before).1.conclusion = none :=
  (steps_cancelled_iff _ steps).trans
    (or_iff_right (start_ne_cancelled request level plan pool))

theorem play_ne_cancelled (request : Request) (level : Option Level) (plan : Plan) (pool : Pool)
    {steps : List Step} (kept : .cancel ∉ steps) :
    (play request level plan pool steps).1.conclusion ≠ some .cancelled := by
  rw [Ne, play_cancelled_iff]
  rintro ⟨before, after, rfl, -⟩
  exact kept (List.mem_append_right before List.mem_cons_self)

end Run

end Preconnect
