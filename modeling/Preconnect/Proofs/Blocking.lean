import Mathlib.Data.List.Perm.Subperm
import Preconnect.Proofs.Concurrency
import Preconnect.Proofs.Races

/-!
Blocking warm-ups. One that makes every call as soon as its thread is asked for, and lets the calls
end in the order of their attempts, is one of the races between its threads. With a single worker
there is no other race, so that it does what an asynchronous warm-up does whose attempts are over at
once.
-/
namespace Preconnect

namespace Crew

variable {observer : Observer} {supply : Supply} {request : Request} {action : Action}
  {crew crew' : Crew} {worker attempt call : Nat}

/-- Whoever waits for an attempt has the number that its call has among all. -/
def Numbered (crew : Crew) : Prop :=
  ∀ worker attempt call : Nat, crew.stages[worker]? = some (.waiting attempt call) →
    crew.log.began[call]? = some attempt

theorem numbered_change (change : Change observer supply action crew crew')
    (faithful : crew.Faithful) (h : crew.Numbered) : crew'.Numbered := by
  intro other attempt call here
  by_cases same : other = action.worker
  · rw [same] at here
    obtain ⟨old, shared, -, shift, rfl⟩ := change.acted here
    cases shift with
    | begin => simp [faithful.calls]
  · rw [change.stages_of_ne same] at here
    have known := h other attempt call here
    obtain ⟨later, grows⟩ := (grows_change change).view Happening.began?
    rw [Log.began, ← grows, List.getElem?_append_left]
    · exact known
    · exact (List.getElem?_eq_some_iff.1 known).1

theorem numbered_reached (h : Reached observer supply (request.crew observer) crew) :
    crew.Numbered := by
  refine (reached_invariant (fun crew => crew.Faithful ∧ crew.Numbered)
    (fun change ih => ⟨faithful_change change ih.1, numbered_change change ih.1 ih.2⟩) h
    ⟨faithful_crew request observer, ?_⟩).2
  intro worker attempt call here
  cases Request.fresh_of_crew here

theorem idxOf_began (h : Reached observer supply (request.crew observer) crew)
    (here : crew.stages[worker]? = some (.waiting attempt call)) :
    crew.log.began.idxOf attempt = call := by
  obtain ⟨bound, rfl⟩ := List.getElem?_eq_some_iff.1 (numbered_reached h worker attempt call here)
  exact List.get_idxOf (began_nodup h) ⟨call, bound⟩

theorem mem_began (h : Reached observer supply (request.crew observer) crew)
    (here : crew.stages[worker]? = some (.waiting attempt call)) :
    attempt ∈ crew.log.began :=
  List.mem_of_getElem? (numbered_reached h worker attempt call here)

theorem began_of_unassigned (change : Change observer supply action crew crew')
    (unassigned : ∀ attempt, crew.stages[action.worker]? ≠ some (.assigned attempt)) :
    crew'.log.began = crew.log.began := by
  obtain ⟨here, shift⟩ := change
  cases shift with
  | @begin worker attempt => exact absurd here (unassigned attempt)
  | start | take | stop | finish | record | tell | die | abandon | leave => simp

theorem began_step
    (unassigned : ∀ attempt, crew.stages[action.worker]? ≠ some (.assigned attempt)) :
    (crew.step observer action).log.began = crew.log.began := by
  rcases step_eq_or_change observer (allows_anything crew action) with same | change
  · rw [same]
  · exact began_of_unassigned change unassigned

theorem length_pursued_le (h : Reached observer supply (request.crew observer) crew) :
    crew.pursued.length ≤ request.target.toNat := by
  have part : crew.pursued.Subperm (List.range request.target.toNat) := by
    rw [List.subperm_ext_iff]
    intro attempt _
    have begun := pursued_reached h attempt
    have all := count_prospects_reached h attempt
    simp only [prospects, List.count_append] at all
    omega
  simpa using part.length_le

theorem length_results_turn (observer : Observer) (plan : Plan) {result : Except Error Connection}
    (here : crew.stages[worker]? = some (.settled attempt result)) :
    crew.log.results.length < (crew.turn observer plan worker).log.results.length := by
  have next : crew.stages[worker]?.bind (Stage.next? plan worker) = some (.advance worker) := by
    rw [here]
    rfl
  have recorded : (crew.step observer (.advance worker)).log.results.length =
      crew.log.results.length + 1 := by
    rw [step_advance observer here]
    simp [advance]
  have grows := grows_turn observer plan worker (crew.step observer (.advance worker))
  have longer := (grows.view Happening.finished?).length_le
  rw [turn_of_next next]
  simp only [Log.results] at recorded ⊢
  omega

theorem stages_of_single {stages : Array Stage} {stage : Stage} (single : stages.size = 1)
    (here : stages[worker]? = some stage) : worker = 0 ∧ stages = #[stage] := by
  obtain ⟨only, rfl⟩ := Array.size_eq_one_iff.1 single
  obtain ⟨bound, rfl⟩ := Array.getElem?_eq_some_iff.1 here
  have first : worker = 0 := by simpa using bound
  subst first
  exact ⟨rfl, rfl⟩

theorem gather_singleton {α : Type} (stage : Stage) (find : Stage → Option α) :
    gather #[stage] find = (find stage).toList := by
  cases found : find stage with
  | none => simp [gather, found]
  | some a => simp [gather, found]

structure InOrder (target : Nat) (crew : Crew) : Prop where
  began : crew.log.began <+: List.range target
  rest : crew.isOver = true ∨
    crew.log.began ++ gather crew.stages Stage.assigned? ++ crew.queue.attempts = List.range target

theorem inOrder_change {target : Nat} (change : Change observer supply action crew crew')
    (single : crew.stages.size = 1) (h : crew.InOrder target) : crew'.InOrder target := by
  obtain @⟨old, new, shared, here, shift⟩ := change
  obtain ⟨first, only⟩ := stages_of_single single here
  have after : (shared.setStage action.worker new).stages = #[new] := by
    simp [shift.stages, only, first]
  have early := h.began
  have line := h.rest.resolve_left (by simp [isOver, only, shift.alive])
  rw [only] at line
  suffices shared.log.began <+: List.range target ∧
      ((#[new] : Array Stage).all Stage.hasEnded = true ∨
        shared.log.began ++ gather #[new] Stage.assigned? ++ shared.queue.attempts =
          List.range target) by
    rw [← after] at this
    exact ⟨this.1, this.2⟩
  cases shift with
  | take taken => exact ⟨early, .inr (by simpa [gather_singleton, taken] using line)⟩
  | @begin worker attempt =>
    have next : crew.log.began ++ [attempt] ++ crew.queue.attempts = List.range target := by
      simpa [gather_singleton] using line
    refine ⟨?_, .inr ?_⟩
    · rw [← next]
      simp
    · simpa [gather_singleton] using next
  | abandon | leave => exact ⟨by simpa using early, .inl (by simp [Stage.hasEnded, Stage.ending?])⟩
  | start | stop | finish | record | tell | die =>
    exact ⟨by simpa using early, .inr (by simpa [gather_singleton] using line)⟩

theorem inOrder_reached (h : Reached observer supply (request.crew observer) crew)
    (single : request.effectiveWorkers = 1) : crew.InOrder request.target.toNat := by
  have size := size_reached h
  refine (reached_invariant (fun crew => crew.stages.size = 1 ∧
    crew.InOrder request.target.toNat) (fun change ih => ⟨?_, inOrder_change change ih.1 ih.2⟩) h
      ⟨?_, ?_, .inr ?_⟩).2
  · rw [change.size_stages, ih.1]
  · simp [Request.crew, ofCounts, single]
  · rw [Log.began, view_crew ofWork_began?]
    exact List.nil_prefix
  · rw [Log.began, view_crew ofWork_began?, gather_crew rfl]
    simp [Request.crew, ofCounts, Queue.ofTarget]

theorem InOrder.idxOf {target : Nat} (h : crew.InOrder target)
    (member : attempt ∈ crew.log.began) : crew.log.began.idxOf attempt = attempt := by
  have bound := h.began.subset member
  rw [h.began.idxOf_eq_of_mem member]
  simpa using List.get_idxOf (@List.nodup_range target) ⟨attempt, by simpa using bound⟩

end Crew

namespace Threads

open Crew

variable {observer : Observer} {outcomes : Nat → Outcome} {plan : Plan} {request : Request}
  {crew : Crew} {action : Action} {worker attempt call : Nat} {stage : Stage}

def prompt (crew : Crew) : Threads := ⟨crew, crew.log.began⟩

theorem prompt_crew (request : Request) (observer : Observer) :
    prompt (request.crew observer) = ofRequest request observer := by
  rw [prompt, Log.began, view_crew ofWork_began?]
  rfl

theorem act_of_free (threads : Threads) (here : threads.crew.stages[worker]? = some stage)
    (free : ∀ attempt call, stage ≠ .waiting attempt call) :
    threads.act observer outcomes worker =
      { threads with crew := threads.crew.step observer (.advance worker) } := by
  cases stage with
  | waiting attempt call => exact absurd rfl (free attempt call)
  | fresh | idle | assigned | settled | recorded | ended => simp [act, here]

theorem act_of_called (threads : Threads)
    (here : threads.crew.stages[worker]? = some (.waiting attempt call))
    (called : attempt ∈ threads.calls) :
    threads.act observer outcomes worker =
      { threads with
        crew := threads.crew.step observer
          (.finish worker (outcomes (threads.calls.idxOf attempt)).onThread) } := by
  simp [act, here, called]

theorem act_of_uncalled (threads : Threads)
    (here : threads.crew.stages[worker]? = some (.waiting attempt call))
    (uncalled : attempt ∉ threads.calls) :
    threads.act observer outcomes worker =
      { threads with calls := threads.calls ++ [attempt] } := by
  simp [act, here, uncalled]

theorem race_assigned (reached : Reached observer anything (request.crew observer) crew)
    (here : crew.stages[worker]? = some (.assigned attempt)) :
    (prompt crew).race observer outcomes [worker, worker] =
      prompt (crew.step observer (.advance worker)) := by
  have bound : worker < crew.stages.size := (Array.getElem?_eq_some_iff.1 here).1
  have waits : (crew.step observer (.advance worker)).stages[worker]? =
      some (.waiting attempt crew.calls) := by
    rw [step_advance observer here]
    simp [advance, bound]
  have began : (crew.step observer (.advance worker)).log.began = crew.log.began ++ [attempt] := by
    rw [step_advance observer here]
    simp [advance]
  have once := began_nodup (reached_step reached (allows_anything crew (.advance worker)))
  rw [began, List.nodup_append] at once
  have uncalled : attempt ∉ crew.log.began := fun member =>
    once.2.2 attempt member attempt (List.mem_singleton.2 rfl) rfl
  simp only [race, List.foldl_cons, List.foldl_nil]
  rw [act_of_free (prompt crew) here (by simp), act_of_uncalled _ waits uncalled, prompt, prompt,
    began]

/-- Where the plan knows what an attempt comes to, it is what its call comes to. -/
def Foretells (plan : Plan) (outcomes : Nat → Outcome) (crew : Crew) : Prop :=
  ∀ attempt ∈ crew.log.began, ∀ outcome, plan attempt = some outcome →
    outcome.result = (outcomes (crew.log.began.idxOf attempt)).result

theorem race_waiting (reached : Reached observer anything (request.crew observer) crew)
    (here : crew.stages[worker]? = some (.waiting attempt call)) {outcome : Outcome}
    (same : outcome.result = (outcomes (crew.log.began.idxOf attempt)).result) :
    (prompt crew).race observer outcomes [worker] =
      prompt (crew.step observer (.finish worker outcome)) := by
  have began : (crew.step observer (.finish worker outcome)).log.began = crew.log.began := by
    apply began_step
    simp [here]
  simp only [race, List.foldl_cons, List.foldl_nil]
  rw [act_of_called (prompt crew) here (mem_began reached here), prompt, prompt, began,
    step_finish here, step_finish here, Outcome.result_onThread, same]

theorem race_free (here : crew.stages[worker]? = some stage)
    (free : ∀ attempt call, stage ≠ .waiting attempt call)
    (unassigned : ∀ attempt, stage ≠ .assigned attempt) :
    (prompt crew).race observer outcomes [worker] =
      prompt (crew.step observer (.advance worker)) := by
  have began : (crew.step observer (.advance worker)).log.began = crew.log.began := by
    apply began_step
    simp [here, unassigned]
  simp only [race, List.foldl_cons, List.foldl_nil]
  rw [act_of_free (prompt crew) here free, prompt, prompt, began]

theorem race_next (reached : Reached observer anything (request.crew observer) crew)
    (foretold : Foretells plan outcomes crew)
    (next : crew.stages[worker]?.bind (Stage.next? plan worker) = some action) :
    ∃ schedule, (prompt crew).race observer outcomes schedule =
      prompt (crew.step observer action) := by
  obtain ⟨stage, here, takes⟩ := Option.bind_eq_some_iff.1 next
  cases stage with
  | ended => cases takes
  | assigned attempt =>
    cases takes
    exact ⟨_, race_assigned reached here⟩
  | waiting attempt call =>
    obtain ⟨outcome, planned, rfl⟩ := Option.map_eq_some_iff.1 takes
    exact ⟨_, race_waiting reached here
      (foretold attempt (mem_began reached here) outcome planned)⟩
  | fresh | idle | settled | recorded =>
    cases takes
    exact ⟨_, race_free here (by simp) (by simp)⟩

/-- A whole turn is one way for a worker and its threads to go on. -/
theorem race_turn (reached : Reached observer anything (request.crew observer) crew)
    (foretold : ∀ crew, Reached observer anything (request.crew observer) crew →
      Foretells plan outcomes crew) (worker : Nat) :
    ∃ schedule, (prompt crew).race observer outcomes schedule =
      prompt (crew.turn observer plan worker) := by
  fun_induction turn observer plan worker crew with
  | case1 crew rests => exact ⟨[], rfl⟩
  | case2 crew action next ih =>
    obtain ⟨first, stepped⟩ := race_next reached (foretold crew reached) next
    obtain ⟨rest, turned⟩ := ih (reached_step reached (allows_anything crew action))
    refine ⟨first ++ rest, ?_⟩
    rw [race_append, stepped, turned]

theorem race_turns (observer : Observer)
    (reached : Reached observer anything (request.crew observer) crew)
    (foretold : ∀ crew, Reached observer anything (request.crew observer) crew →
      Foretells plan outcomes crew) (workers : List Nat) :
    ∃ schedule, (prompt crew).race observer outcomes schedule =
      prompt (crew.turns observer plan workers) := by
  induction workers generalizing crew with
  | nil => exact ⟨[], rfl⟩
  | cons worker rest ih =>
    obtain ⟨first, turned⟩ := race_turn reached foretold worker
    obtain ⟨later, others⟩ := ih (reached_turn plan.within_anything reached)
    refine ⟨first ++ later, ?_⟩
    rw [race_append, turned]
    exact others

theorem foretells_nothing (outcomes : Nat → Outcome) (crew : Crew) :
    Foretells (fun _ => none) outcomes crew := by
  intro attempt _ outcome planned
  cases planned

/-- With a single worker the calls are made in the order of the attempts. -/
theorem foretells_single (outcomes : Nat → Outcome)
    (single : request.effectiveWorkers = 1)
    (reached : Reached observer anything (request.crew observer) crew) :
    Foretells (fun attempt => some (outcomes attempt)) outcomes crew := by
  intro attempt began outcome planned
  rw [(inOrder_reached reached single).idxOf began, Option.some.inj planned]

theorem act_of_absent {threads : Threads} (absent : threads.crew.stages[worker]? = none) :
    threads.act observer outcomes worker = threads := by
  simp [act, step, absent]

theorem act_of_isOver (threads : Threads) (allOver : threads.crew.isOver = true) :
    threads.act observer outcomes worker = threads := by
  cases here : threads.crew.stages[worker]? with
  | none => exact act_of_absent here
  | some stage =>
    rw [act_of_free threads here, step_of_isOver observer allOver]
    rintro attempt call rfl
    cases isOver_iff.1 allOver worker _ here

theorem race_of_isOver {threads : Threads} (allOver : threads.crew.isOver = true)
    (schedule : List Nat) : threads.race observer outcomes schedule = threads := by
  induction schedule with
  | nil => rfl
  | cons worker rest ih =>
    rw [race, List.foldl_cons, act_of_isOver _ allOver]
    exact ih

theorem race_single {threads : Threads} (single : threads.crew.stages.size = 1)
    (schedule : List Nat) :
    threads.race observer outcomes schedule =
      threads.race observer outcomes (List.replicate (schedule.count 0) 0) := by
  induction schedule generalizing threads with
  | nil => rfl
  | cons worker rest ih =>
    have acts := acts_act observer outcomes threads worker
    rw [race, List.foldl_cons]
    by_cases first : worker = 0
    · subst first
      rw [List.count_cons_self, List.replicate_succ]
      exact ih (acts.size_stages.trans single)
    · have absent : threads.crew.stages[worker]? = none := by
        rw [Array.getElem?_eq_none_iff]
        omega
      rw [act_of_absent absent, List.count_cons_of_ne first]
      exact ih single

theorem race_unique (observer : Observer) (outcomes : Nat → Outcome) {threads : Threads}
    (single : threads.crew.stages.size = 1)
    {schedule schedule' : List Nat}
    (ends : (threads.race observer outcomes schedule).crew.isOver = true)
    (ends' : (threads.race observer outcomes schedule').crew.isOver = true) :
    threads.race observer outcomes schedule = threads.race observer outcomes schedule' := by
  calc threads.race observer outcomes schedule
      = threads.race observer outcomes (schedule ++ schedule') := by
        rw [race_append, race_of_isOver ends]
    _ = threads.race observer outcomes (schedule' ++ schedule) := by
        rw [race_single single, race_single single (schedule' ++ schedule), List.count_append,
          List.count_append, Nat.add_comm]
    _ = threads.race observer outcomes schedule' := by
        rw [race_append, race_of_isOver ends']

end Threads

namespace Run

open Crew

variable {request : Request} {level : Option Level} {outcomes : Nat → Outcome} {pool : Pool}
  {run : Run} {crew : Crew} {attempt call : Nat}

theorem waits_of_lowest (lowest : run.lowestInFlight? = some (attempt, call)) :
    ∃ worker : Nat, run.crew.stages[worker]? = some (.waiting attempt call) := by
  have among : ∀ found, run.lowestInFlight? = some found →
      .waiting found.1 found.2 ∈ run.crew.stages := by
    unfold lowestInFlight?
    apply Array.foldl_induction fun _ (lowest : Option (Nat × Nat)) =>
      ∀ found, lowest = some found → .waiting found.1 found.2 ∈ run.crew.stages
    · simp
    · intro place lowest ih found finds
      have member : run.crew.stages[place] ∈ run.crew.stages := Array.getElem_mem place.isLt
      split at finds
      · split at finds
        · rename_i here _
          cases finds
          rwa [here] at member
        · exact ih found finds
      · rename_i here
        cases finds
        rwa [here] at member
      · exact ih found finds
  exact Array.mem_iff_getElem?.1 (among _ lowest)

theorem free_of_lowest (lowest : run.lowestInFlight? = none) (worker : Nat) :
    run.crew.stages[worker]? ≠ some (.waiting attempt call) := by
  have none : run.lowestInFlight? = none → ∀ place < run.crew.stages.size,
      run.crew.stages[place]? ≠ some (.waiting attempt call) := by
    unfold lowestInFlight?
    apply Array.foldl_induction fun seen (lowest : Option (Nat × Nat)) =>
      lowest = none → ∀ place < seen, run.crew.stages[place]? ≠ some (.waiting attempt call)
    · simp
    · intro last lowest ih unfound place bound
      split at unfound
      · split at unfound <;> cases unfound
      · cases unfound
      · rename_i free
        rcases Nat.lt_succ_iff_lt_or_eq.1 bound with earlier | rfl
        · exact ih unfound place earlier
        · intro here
          rw [Array.getElem?_eq_getElem last.isLt] at here
          subst unfound
          exact free attempt call (Option.some.inj here) rfl
  intro here
  exact none lowest worker (Array.getElem?_eq_some_iff.1 here).1 here

/-- The run is what comes of a crew that some schedule brings about, and every call has been made as
soon as its attempt began. Whoever is left waits for an attempt. -/
structure Prompt (request : Request) (level : Option Level) (outcomes : Nat → Outcome)
    (pool : Pool) (crew : Crew) (run : Run) : Prop where
  raced : ∃ schedule, (Threads.ofRequest request (.ofRequest request level)).race
    (.ofRequest request level) outcomes schedule = .prompt crew
  rests : ∀ worker, Rests (fun _ => none) crew worker
  hasResult : HasResultOf request (.ofRequest request level) (fun _ => none) pool { crew } run

theorem Prompt.reached (h : Prompt request level outcomes pool crew run) :
    Reached (.ofRequest request level) anything (request.crew (.ofRequest request level))
      crew := by
  obtain ⟨schedule, ends⟩ := h.raced
  have orderly := Threads.orderly_race request (.ofRequest request level) outcomes schedule
  rw [ends] at orderly
  exact orderly.reached

theorem Prompt.alive_of_lowest (h : Prompt request level outcomes pool crew run)
    (lowest : run.lowestInFlight? = some (attempt, call)) : crew.isOver = false := by
  obtain ⟨worker, waits⟩ := waits_of_lowest lowest
  apply Bool.of_not_eq_true
  intro allOver
  cases isOver_iff.1 (h.hasResult.hasEnded allOver).deserted worker _ waits

theorem Prompt.isOver_of_free (h : Prompt request level outcomes pool crew run)
    (free : ∀ worker attempt call : Nat, crew.stages[worker]? ≠ some (.waiting attempt call)) :
    crew.isOver = true := by
  rw [isOver_iff]
  intro worker stage here
  apply Bool.of_not_eq_false
  intro alive
  obtain ⟨attempt, call, rfl, -⟩ := waiting_of_rests (h.rests worker) here alive
  exact free worker attempt call here

theorem Prompt.isOver_of_lowest (h : Prompt request level outcomes pool crew run)
    (lowest : run.lowestInFlight? = none) : crew.isOver = true := by
  apply Bool.of_not_eq_false
  intro alive
  have free {attempt call : Nat} (worker : Nat) :
      run.crew.stages[worker]? ≠ some (.waiting attempt call) := free_of_lowest lowest worker
  rw [h.hasResult.eq_of_alive alive] at free
  have allOver := h.isOver_of_free fun worker _ _ => free worker
  simp [alive] at allOver

theorem Prompt.isOver_of_results (h : Prompt request level outcomes pool crew run)
    (all : request.target.toNat ≤ crew.log.results.length) : crew.isOver = true := by
  apply h.isOver_of_free
  intro worker attempt call here
  have bound := length_pursued_le h.reached
  have begun : attempt ∈ gather crew.stages Stage.begun? := by
    apply List.mem_filterMap.2
    exact ⟨_, Array.mem_toList_iff.2 (Array.mem_of_getElem? here), rfl⟩
  have positive := List.length_pos_of_mem begun
  simp only [pursued, List.length_append, List.length_map] at bound
  omega

theorem resume_single {observer : Observer} {plan : Plan} {worker : Nat} {outcome : Outcome}
    (found : crew.workerOf? attempt = some worker) :
    crew.resume observer plan [(attempt, outcome)] =
      (crew.step observer (.finish worker outcome)).turn observer plan worker := by
  simp [resume, release, found, turns]

theorem Prompt.finish (h : Prompt request level outcomes pool crew run)
    (lowest : run.lowestInFlight? = some (attempt, call)) :
    ∃ crew', Prompt request level outcomes pool crew'
        (run.finish [(attempt, (outcomes call).onThread)]).1 ∧
      crew.log.results.length < crew'.log.results.length := by
  have alive := h.alive_of_lowest lowest
  obtain ⟨first, waits⟩ := waits_of_lowest lowest
  rw [h.hasResult.eq_of_alive alive] at waits ⊢
  obtain ⟨worker, found⟩ := workerOf?_isSome waits
  obtain ⟨number, here⟩ := waiting_of_workerOf? found
  have numbered := idxOf_began h.reached waits
  obtain ⟨schedule, ends⟩ := h.raced
  have same : (outcomes call).onThread.result =
      (outcomes (crew.log.began.idxOf attempt)).result := by
    rw [numbered, Outcome.result_onThread]
  have finished := Threads.race_waiting h.reached here same
  have reached := reached_step h.reached
    (allows_anything crew (.finish worker (outcomes call).onThread))
  obtain ⟨rest, turned⟩ := Threads.race_turn reached
    (fun crew _ => Threads.foretells_nothing outcomes crew) worker
  have hasResult := hasResultOf_heed request (.ofRequest request level) (fun _ => none) pool alive
    run.outlet (.finish [(attempt, (outcomes call).onThread)])
  have bound : worker < crew.stages.size := (Array.getElem?_eq_some_iff.1 here).1
  simp only [heed, resume_single found] at hasResult
  refine ⟨_, ⟨⟨schedule ++ [worker] ++ rest, ?_⟩, ?_, hasResult⟩, ?_⟩
  · rw [Threads.race_append, Threads.race_append, ends, finished, turned]
  · intro other
    by_cases same : other = worker
    · rw [same]
      exact rests_turn _ _ worker _
    · rw [Rests, stages_turn_of_ne same, stages_step_of_ne same]
      exact h.rests other
  · rw [step_finish here]
    have settled : (crew.setStage worker (.settled attempt (outcomes call).onThread.result)).stages[
        worker]? = some (.settled attempt (outcomes call).onThread.result) := by
      simp [bound]
    simpa using length_results_turn (.ofRequest request level) (fun _ => none) settled

/-- Finishing as many attempts as there are brings the warm-up to its end. -/
theorem Prompt.finishLowest (h : Prompt request level outcomes pool crew run) (count : Nat)
    (enough : request.target.toNat ≤ crew.log.results.length + count) :
    ∃ crew', Prompt request level outcomes pool crew' (run.finishLowest outcomes count) ∧
      crew'.isOver = true := by
  induction count generalizing crew run with
  | zero => exact ⟨crew, h, h.isOver_of_results enough⟩
  | succ count ih =>
    simp only [Run.finishLowest]
    cases lowest : run.lowestInFlight? with
    | none => exact ⟨crew, h, h.isOver_of_lowest lowest⟩
    | some found =>
      obtain ⟨crew', prompt, further⟩ := h.finish lowest
      exact ih prompt (by omega)

theorem prompt_start (outcomes : Nat → Outcome) (pool : Pool)
    (begins : request.Begins (.ofRequest request level)) :
    ∃ crew, Prompt request level outcomes pool crew
      (start request level (fun _ => none) pool).1 := by
  have hasResult := hasResultOf_play begins (fun _ => none) pool []
  have paused := paused_begin request (.ofRequest request level)
    (Plan.within_anything fun _ => none)
  obtain ⟨schedule, ends⟩ := Threads.race_turns (.ofRequest request level) .refl
    (fun crew _ => Threads.foretells_nothing outcomes crew)
    (List.range request.effectiveWorkers.toNat)
  rw [Threads.prompt_crew] at ends
  have size : (request.crew (.ofRequest request level)).stages.size =
      request.effectiveWorkers.toNat := by
    simp [Request.crew, ofCounts]
  simp only [Crew.labor, List.foldl_nil, size] at hasResult
  exact ⟨_, ⟨schedule, ends⟩, paused.rests, hasResult⟩

/-- A blocking warm-up concludes, and is one of the races between its threads. -/
theorem blocking_races (outcomes : Nat → Outcome) (pool : Pool)
    (begins : request.Begins (.ofRequest request level)) :
    ∃ crew, Prompt request level outcomes pool crew (blocking request level outcomes pool) ∧
      crew.isOver = true := by
  obtain ⟨crew, prompt⟩ := prompt_start outcomes pool begins
  exact prompt.finishLowest _ (Nat.le_add_left _ _)

theorem play_races (outcomes : Nat → Outcome) (pool : Pool)
    (begins : request.Begins (.ofRequest request level)) (single : request.effectiveWorkers = 1) :
    ∃ crew, (∃ schedule, (Threads.ofRequest request (.ofRequest request level)).race
        (.ofRequest request level) outcomes schedule = .prompt crew) ∧ crew.isOver = true ∧
      HasResultOf request (.ofRequest request level) (fun attempt => some (outcomes attempt)) pool
        { crew }
        (play request level (fun attempt => some (outcomes attempt)) pool []).1 := by
  have hasResult := hasResultOf_play begins (fun attempt => some (outcomes attempt)) pool []
  have rests := (paused_begin request (.ofRequest request level)
    (Plan.within_anything fun attempt => some (outcomes attempt))).rests
  obtain ⟨schedule, ends⟩ := Threads.race_turns (.ofRequest request level) .refl
    (fun crew reached => Threads.foretells_single outcomes single reached)
    (List.range request.effectiveWorkers.toNat)
  rw [Threads.prompt_crew] at ends
  have size : (request.crew (.ofRequest request level)).stages.size =
      request.effectiveWorkers.toNat := by
    simp [Request.crew, ofCounts]
  simp only [Crew.labor, List.foldl_nil, size] at hasResult
  refine ⟨_, ⟨schedule, ends⟩, ?_, hasResult⟩
  rw [isOver_iff]
  intro worker stage here
  apply Bool.of_not_eq_false
  intro alive
  obtain ⟨attempt, call, -, unplanned⟩ := waiting_of_rests (rests worker) here alive
  cases unplanned

theorem valid_of_single (single : request.effectiveWorkers = 1) : request.invalid? = none := by
  have least : (if request.target ≤ request.workers then request.target else request.workers) = 1 :=
    single
  unfold Request.invalid? Request.fault?
  split at least
  · rename_i few
    rw [least] at few ⊢
    have some : request.workers ≠ 0 := by
      intro none
      simp [none] at few
    simp [some]
  · rename_i many
    rw [least] at many ⊢
    have some : request.target ≠ 0 := by
      intro none
      simp [none] at many
    simp [some]

theorem finishLowest_of_isOver (allOver : run.crew.isOver = true) (count : Nat) :
    run.finishLowest outcomes count = run := by
  cases count with
  | zero => rfl
  | succ count =>
    rw [Run.finishLowest]
    cases lowest : run.lowestInFlight? with
    | none => rfl
    | some found =>
      obtain ⟨worker, waits⟩ := waits_of_lowest lowest
      cases isOver_iff.1 allOver worker _ waits

theorem blocking_of_concluded
    (concluded : (start request level (fun _ => none) pool).1.conclusion.isSome = true) :
    blocking request level outcomes pool = (start request level (fun _ => none) pool).1 := by
  have phase := (inPhase_start request level (fun _ => none) pool).phase
  obtain ⟨ended, ends⟩ := Option.isSome_iff_exists.1 concluded
  rw [ends] at phase
  exact finishLowest_of_isOver phase.isOver _

/-- With a single worker the calls of a blocking warm-up cannot be told from attempts that are over
at once, whatever else panics. -/
theorem blocking_eq_play (level : Option Level) (outcomes : Nat → Outcome) (pool : Pool)
    (single : request.effectiveWorkers = 1) :
    let run := blocking request level outcomes pool
    let run' := (play request level (fun attempt => some (outcomes attempt)) pool []).1
    (run.crew, run.pool, run.conclusion) = (run'.crew, run'.pool, run'.conclusion) := by
  intro run run'
  have valid := valid_of_single single
  cases panics : (Observer.ofRequest request level).panic? request.started with
  | some payload =>
    have first := (inPhase_start request level (fun _ => none) pool).phase.of_panic valid panics
    have second := (inPhase_play request level (fun attempt => some (outcomes attempt)) pool
      []).phase.of_panic valid panics
    have concluded := congrArg (·.2.2.isSome) first
    simp only [run, run', blocking_of_concluded concluded, first, second]
  | none =>
    have begins : request.Begins (.ofRequest request level) := ⟨valid, panics⟩
    obtain ⟨crew, prompt, allOver⟩ := blocking_races outcomes pool begins
    obtain ⟨schedule, ends⟩ := prompt.raced
    obtain ⟨crew', ⟨schedule', ends'⟩, allOver', hasResult'⟩ :=
      play_races outcomes pool begins single
    have size : (Threads.ofRequest request (.ofRequest request level)).crew.stages.size = 1 := by
      simp [Threads.ofRequest, Request.crew, ofCounts, single]
    have same := Threads.race_unique (.ofRequest request level) outcomes size
      (by rw [ends]; exact allOver) (by rw [ends']; exact allOver')
    rw [ends, ends'] at same
    cases congrArg Threads.crew same
    exact prompt.hasResult.result.trans hasResult'.result.symm

theorem blocking_concludes (request : Request) (level : Option Level) (outcomes : Nat → Outcome)
    (pool : Pool) : (blocking request level outcomes pool).conclusion.isSome = true := by
  cases concluded : (start request level (fun _ => none) pool).1.conclusion with
  | some ended =>
    have isSome : (start request level (fun _ => none) pool).1.conclusion.isSome = true := by
      simp [concluded]
    rwa [blocking_of_concluded isSome]
  | none =>
    have phase := (inPhase_start request level (fun _ => none) pool).phase
    obtain ⟨-, begins, -⟩ := phase.paused concluded
    obtain ⟨crew, prompt, allOver⟩ := blocking_races outcomes pool begins
    exact (prompt.hasResult.hasEnded allOver).concluded

theorem blocking_of_fault (level : Option Level) (outcomes : Nat → Outcome) (pool : Pool)
    {fault : InvalidArgument} (wrong : request.fault? = some fault) :
    let run := blocking request level outcomes pool
    run.conclusion = some (.failed ⟨.invalidArgument fault⟩) ∧
      (∀ plan steps, (play request level plan pool steps).1.conclusion = run.conclusion) ∧
      run.crew.calls = 0 ∧ run.crew.log.toList = [] ∧ run.pool = pool := by
  intro run
  have invalid : request.invalid? = some ⟨.invalidArgument fault⟩ := by
    simp [Request.invalid?, wrong]
  have phase := (inPhase_start request level (fun _ => none) pool).phase.of_invalid invalid
  have same : run = (start request level (fun _ => none) pool).1 :=
    blocking_of_concluded (congrArg (·.2.2.isSome) phase)
  rw [← same] at phase
  injection phase with crew rest
  injection rest with after ended
  refine ⟨ended, fun plan steps => ?_, by rw [crew]; rfl, by rw [crew]; rfl, after⟩
  have other := (inPhase_play request level plan pool steps).phase.of_invalid invalid
  exact (congrArg (·.2.2) other).trans ended.symm

theorem blocking_eq_raced (outcomes : Nat → Outcome) (pool : Pool)
    (begins : request.Begins (.ofRequest request level)) :
    ∃ schedule,
      let run := blocking request level outcomes pool
      let race := raced request level outcomes pool schedule
      (run.crew, run.pool, run.conclusion) = (race.crew, race.pool, race.conclusion) := by
  obtain ⟨crew, prompt, -⟩ := blocking_races outcomes pool begins
  obtain ⟨schedule, ends⟩ := prompt.raced
  have hasResult := hasResultOf_raced request level outcomes pool schedule
  rw [ends] at hasResult
  exact ⟨schedule, prompt.hasResult.result.trans hasResult.result.symm⟩

/-- Calls on threads instead of attempts change nothing but what no race between threads can settle.
An invalid request is refused as ever, without a call. A single worker comes to what it would come
to if every attempt were over at once, in the way of the call of its number. Several workers race,
and in all races that nothing but attempts panics in there are as many calls as attempts, which
decide what the warm-up comes to, whatever call is made for whichever attempt. -/
theorem blocking_refines (request : Request) (level : Option Level) (outcomes : Nat → Outcome)
    (pool : Pool) :
    let run := blocking request level outcomes pool
    run.conclusion.isSome = true ∧
      (∀ fault, request.fault? = some fault →
        run.conclusion = some (.failed ⟨.invalidArgument fault⟩) ∧
          (∀ plan steps, (play request level plan pool steps).1.conclusion = run.conclusion) ∧
          run.crew.calls = 0 ∧ run.crew.log.toList = [] ∧ run.pool = pool) ∧
      (request.effectiveWorkers = 1 →
        let run' := (play request level (fun attempt => some (outcomes attempt)) pool []).1
        run.crew = run'.crew ∧ run.pool = run'.pool ∧ run.conclusion = run'.conclusion) ∧
      (request.Begins (.ofRequest request level) → ∃ schedule,
        let race := raced request level outcomes pool schedule
        run.crew = race.crew ∧ run.pool = race.pool ∧ run.conclusion = race.conclusion) ∧
      ∀ schedule,
        let threads := (Threads.ofRequest request (.ofRequest request level)).race
          (.ofRequest request level) outcomes schedule
        let race := raced request level outcomes pool schedule
        (Threads.Fair request schedule → race.conclusion.isSome = true) ∧
          (race.conclusion.isSome = true → Unhindered request pool race →
            threads.calls.Perm (List.range request.target.toNat) ∧
              Verdict request.target.toNat request.failFast outcomes race ∧
              ∀ failure, race.conclusion.bind Conclusion.failure? = some failure →
                ∃ call < request.target.toNat,
                  (outcomes call).result = .error failure.error) := by
  intro run
  refine ⟨blocking_concludes request level outcomes pool,
    fun fault wrong => blocking_of_fault level outcomes pool wrong,
    fun single => ?_, fun begins => ?_, fun schedule => ?_⟩
  · have same := blocking_eq_play level outcomes pool single
    injection same with crews rest
    injection rest with pools conclusions
    exact ⟨crews, pools, conclusions⟩
  · obtain ⟨schedule, same⟩ := blocking_eq_raced outcomes pool begins
    injection same with crews rest
    injection rest with pools conclusions
    exact ⟨schedule, crews, pools, conclusions⟩
  · intro threads race
    refine ⟨raced_concludes level outcomes pool, fun concluded unhindered => ?_⟩
    obtain ⟨verdict, all, failed⟩ := verdict_raced rfl concluded unhindered
    exact ⟨all, verdict, failed⟩

def unsteady (call : Nat) : Outcome := if call = 0 then .panic (.text "lost") else .ok "b"

/-- The thread of the first attempt is overtaken by that of the second, whose call is therefore the
first and gets lost. The handler would panic at a success. A single worker knows no overtaking, and
no worker makes no call. -/
theorem blocking_refines_overtaken :
    let handler : Handler := .callback (PanicRule.first? [⟨"WarmupSucceeded", none, none⟩])
    let request : Request := ⟨2, 2, true, none, some handler⟩
    let pool : Pool := .recording 0 0 none none
    let schedule := [0, 0, 0, 1, 1, 1, 1] ++ List.replicate 30 0 ++ List.replicate 30 1
    let threads := (Threads.ofRequest request (.ofRequest request (some .debug))).race
      (.ofRequest request (some .debug)) unsteady schedule
    let race := raced request (some .debug) unsteady pool schedule
    let single : Request := { request with workers := 1 }
    threads.calls = [1, 0] ∧ threads.calls.Perm (List.range 2) ∧
      race.conclusion = some (.failed ⟨.warmupFailed ⟨1, .ofPanic (.text "lost")⟩⟩) ∧
      race.crew.log.poolCalls.Perm [.close "b"] ∧
      (blocking single none unsteady pool).conclusion =
        some (.failed ⟨.warmupFailed ⟨0, .ofPanic (.text "lost")⟩⟩) ∧
      (blocking single none unsteady pool).conclusion =
        (play single none (fun attempt => some (unsteady attempt)) pool []).1.conclusion ∧
      (blocking { request with workers := 0 } none unsteady pool).crew.calls = 0 := by
  intro handler request pool schedule threads race single
  obtain ⟨-, -, -, -, races⟩ := blocking_refines request (some .debug) unsteady pool
  obtain ⟨-, -, alone, -, -⟩ := blocking_refines single none unsteady pool
  obtain ⟨-, refused, -, -, -⟩ := blocking_refines { request with workers := 0 } none unsteady pool
  have fair : Threads.Fair request schedule := by
    unfold Threads.Fair
    decide +kernel
  have unhindered : Unhindered request pool race := by
    refine ⟨by decide +kernel, ?_, by decide +kernel⟩
    unfold Log.Harmless
    decide +kernel
  have concluded := (races schedule).1 fair
  obtain ⟨all, decided, -⟩ := (races schedule).2 concluded unhindered
  have verdict : Verdict 2 true unsteady race := decided
  have lost : failing unsteady 2 ≠ [] := by decide
  have once : (connected unsteady 2).map PoolCall.close = [.close "b"] := by decide +kernel
  obtain ⟨-, closed⟩ := verdict.failed ⟨rfl, lost⟩
  refine ⟨by decide +kernel, all, by decide +kernel, ?_, by decide +kernel, ?_, ?_⟩
  · rwa [once] at closed
  · exact (alone (by decide +kernel)).2.2
  · exact (refused .noWorkers (by decide +kernel)).2.2.1

end Run

end Preconnect
