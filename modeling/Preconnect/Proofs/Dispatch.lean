import Mathlib.Data.List.Perm.Subperm
import Preconnect.Proofs.Concurrency
import Preconnect.Proofs.KeptFailure
import Preconnect.Proofs.Labor

/-!
The order in which attempts are taken and in which they are over. They are taken in ascending order
whoever takes them. They need not be over in that order, but no attempt is over before more than a
few earlier ones, as each of those that are missing keeps a worker of its own busy.
-/
namespace Preconnect

def Happening.past? : Happening → Option Nat
  | finished _ attempt _ | abandoned _ attempt | neverRun attempt => some attempt
  | began .. | traced _ | emitted _ | called _ | dropped _ => none

attribute [simp] Happening.past?

@[simp] theorem ofWork_past? : OfWork Happening.past? := by
  rintro (_ | _) <;> simp

namespace Log

abbrev past (log : Log) : List Nat := log.view Happening.past?

attribute [simp] past

theorem established_sublist_past (log : Log) :
    (log.established.map (·.attempt)).Sublist log.past := by
  simp only [established, past, view]
  induction log.toList with
  | nil => exact .slnil
  | cons happening rest ih =>
    obtain _ | ⟨_, _, _ | _⟩ | _ | _ := happening <;> simp [List.filterMap_cons, ih]

end Log

/-- When an attempt is over, all but so many of those before it are over already. -/
def KeepsUp (behind : Nat) (past : List Nat) : Prop :=
  ∀ place attempt : Nat, past[place]? = some attempt →
    ((List.range attempt).filter fun earlier => earlier ∉ past.take place).length ≤ behind

section
variable {behind attempt : Nat} {past : List Nat}

theorem keepsUp_nil (behind : Nat) : KeepsUp behind [] := by
  intro place attempt here
  cases here

theorem KeepsUp.concat (h : KeepsUp behind past)
    (few : ((List.range attempt).filter fun earlier => earlier ∉ past).length ≤ behind) :
    KeepsUp behind (past ++ [attempt]) := by
  intro place other here
  rcases Nat.lt_or_ge place past.length with early | late
  · rw [List.getElem?_append_left early] at here
    rw [List.take_append_of_le_length (Nat.le_of_lt early)]
    exact h place other here
  · rw [List.getElem?_append_right late, List.getElem?_singleton] at here
    split at here
    · cases here
      have last : place = past.length := by omega
      rw [last, List.take_left]
      exact few
    · cases here

/-- An attempt cannot come earlier than that, as only so many of those before it are missing. -/
theorem KeepsUp.le_place (h : KeepsUp behind past) {place : Nat}
    (here : past[place]? = some attempt) : attempt - behind ≤ place := by
  have few := h place attempt here
  have parts := List.length_eq_length_filter_add (l := List.range attempt)
    fun earlier => decide (earlier ∉ past.take place)
  have present : ((List.range attempt).filter fun earlier =>
      !decide (earlier ∉ past.take place)).length ≤ place := by
    have inside : ((List.range attempt).filter fun earlier =>
        !decide (earlier ∉ past.take place)) ⊆ past.take place := by
      intro earlier member
      simpa using (List.mem_filter.1 member).2
    have distinct := (@List.nodup_range attempt).filter fun earlier =>
      !decide (earlier ∉ past.take place)
    exact Nat.le_trans (distinct.subperm inside).length_le (List.length_take_le place past)
  rw [List.length_range] at parts
  omega

theorem KeepsUp.eq_range (h : KeepsUp 0 past) (distinct : past.Nodup) :
    past = List.range past.length := by
  have fixed (place : Nat) : ∀ bound : place < past.length, past[place] = place := by
    induction place using Nat.strongRecOn with
    | ind place ih =>
      intro bound
      have reached := h.le_place (List.getElem?_eq_getElem bound)
      rcases Nat.lt_or_ge past[place] place with early | late
      · have twice := ih past[place] early (Nat.lt_trans early bound)
        exact distinct.getElem_inj_iff.1 twice
      · omega
  apply List.ext_getElem
  · rw [List.length_range]
  · intro place bound _
    rw [List.getElem_range, fixed place bound]

theorem KeepsUp.append_range' {taken : Nat} (h : KeepsUp behind past)
    (all : past.Perm (List.range taken)) (count : Nat) :
    KeepsUp behind (past ++ List.range' taken count) := by
  induction count with
  | zero =>
    rw [List.range'_zero, List.append_nil]
    exact h
  | succ count ih =>
    rw [List.range'_1_concat, ← List.append_assoc]
    apply ih.concat
    have none : (List.range (taken + count)).filter
        (fun earlier => earlier ∉ past ++ List.range' taken count) = [] := by
      rw [List.filter_eq_nil_iff]
      intro earlier member
      have before := List.mem_range.1 member
      have there : earlier ∈ past ++ List.range' taken count := by
        rw [List.mem_append, all.mem_iff, List.mem_range, List.mem_range'_1]
        omega
      simp only [there, not_true_eq_false, decide_false, Bool.false_eq_true, not_false_eq_true]
    rw [none]
    exact Nat.zero_le behind

end

/-- How the attempts of a crew of so many workers come to their ends. -/
structure Log.Timely (workers : Nat) (log : Log) : Prop where
  keepsUp : KeepsUp (workers - 1) log.past
  place : ∀ place attempt : Nat, log.past[place]? = some attempt → attempt - (workers - 1) ≤ place
  single : workers ≤ 1 → log.past = List.range log.past.length ∧
    (log.established.map (·.attempt)).Pairwise (· < ·)

theorem KeepsUp.timely {workers : Nat} {log : Log} (h : KeepsUp (workers - 1) log.past)
    (distinct : log.past.Nodup) : log.Timely workers := by
  refine ⟨h, fun place attempt => h.le_place, fun single => ?_⟩
  rw [Nat.sub_eq_zero_of_le single] at h
  have ordered := h.eq_range distinct
  have part := log.established_sublist_past
  rw [ordered] at part
  exact ⟨ordered, List.pairwise_lt_range.sublist part⟩

theorem Log.Timely.of_view {workers : Nat} {log later : Log} (timely : log.Timely workers)
    (past : later.past = log.past) (established : later.established = log.established) :
    later.Timely workers := by
  refine ⟨?_, ?_, ?_⟩
  · rw [past]
    exact timely.keepsUp
  · rw [past]
    exact timely.place
  · rw [past, established]
    exact timely.single

namespace Crew

variable {request : Request} {observer : Observer} {supply : Supply} {plan : Plan}
  {action : Action} {crew crew' : Crew} {target : Nat}

def taken? (before after : Crew) (worker : Nat) : Option Nat :=
  if before.stages[worker]? = some .idle then after.stages[worker]?.bind Stage.assigned? else none

def takings (observer : Observer) (crew : Crew) : List Action → List Nat
  | [] => []
  | action :: rest =>
    (taken? crew (crew.step observer action) action.worker).toList ++
      takings observer (crew.step observer action) rest

theorem taken_change (change : Change observer supply action crew crew') :
    (taken? crew crew' action.worker).toList ++ crew'.queue.attempts = crew.queue.attempts := by
  obtain @⟨old, new, shared, here, shift⟩ := change
  rw [taken?, here, shift.arrives here, queue_setStage]
  cases shift with
  | take taken => simp [taken]
  | abandon held => cases old <;> simp
  | leave alive free => cases old <;> simp
  | start | stop | begin | finish | record | tell | die => simp

theorem taken_step (observer : Observer) (crew : Crew) (action : Action) :
    (taken? crew (crew.step observer action) action.worker).toList ++
      (crew.step observer action).queue.attempts = crew.queue.attempts := by
  rcases step_eq_or_change observer (allows_anything crew action) with same | change
  · have none : taken? crew crew action.worker = none := by
      unfold taken?
      split
      · simp [*]
      · rfl
    rw [same, none]
    rfl
  · exact taken_change change

theorem takings_append_queue (observer : Observer) (crew : Crew) (actions : List Action) :
    crew.takings observer actions ++ (crew.run observer actions).queue.attempts =
      crew.queue.attempts := by
  induction actions generalizing crew with
  | nil => rfl
  | cons action rest ih =>
    have first := taken_step observer crew action
    rw [← ih, ← List.append_assoc] at first
    exact first

def ledger (crew : Crew) : List Nat := crew.held ++ crew.log.past ++ crew.queue.attempts

theorem ledger_change (change : Change observer supply action crew crew') :
    crew'.ledger.Perm crew.ledger := by
  refine List.perm_iff_count.2 fun attempt => ?_
  obtain @⟨old, new, shared, here, shift⟩ := change
  have moved := count_gather_set here new Stage.held? attempt
  simp only [ledger, held, List.count_append, stages_setStage, shift.stages]
  cases shift with
  | take taken =>
    simp [taken, List.count_cons] at moved ⊢
    omega
  | abandon held =>
    rw [held] at moved
    simp at moved ⊢
    omega
  | leave alive free =>
    rw [free] at moved
    simp at moved ⊢
    omega
  | start | stop | begin | finish | record | tell | die =>
    simp at moved ⊢
    omega

theorem ledger_reached (h : Reached observer supply (request.crew observer) crew) :
    crew.ledger.Perm (List.range request.target.toNat) := by
  refine reached_invariant (fun crew => crew.ledger.Perm (List.range request.target.toNat))
    (fun change ih => (ledger_change change).trans ih) h ?_
  rw [ledger, held, gather_crew rfl, Log.past, view_crew ofWork_past?]
  exact .refl _

theorem past_change (change : Change observer supply action crew crew') :
    crew'.log.past = crew.log.past ∨
      ∃ attempt ∈ crew.held, crew'.log.past = crew.log.past ++ [attempt] := by
  obtain @⟨old, new, shared, here, shift⟩ := change
  have mine {attempt : Nat} (held : old.held? = some attempt) : attempt ∈ crew.held :=
    Holds.mem_held ⟨old, here, held⟩
  cases shift with
  | @record worker attempt => exact .inr ⟨attempt, mine rfl, by simp⟩
  | @abandon worker attempt stage held => exact .inr ⟨attempt, mine held, by simp⟩
  | start | take | stop | begin | finish | tell | die | leave => exact .inl (by simp)

/-- Whoever holds an attempt leaves room for as many earlier ones as there are other workers. -/
theorem few_unfinished (last : crew.HoldsLast target)
    (all : crew.ledger.Perm (List.range target)) {attempt : Nat} (held : attempt ∈ crew.held) :
    ((List.range attempt).filter fun earlier => earlier ∉ crew.log.past).length ≤
      crew.stages.size - 1 := by
  obtain ⟨taken, bound, queue⟩ := last
  have distinct : crew.ledger.Nodup := all.nodup_iff.2 List.nodup_range
  rw [ledger, List.append_assoc, List.nodup_append] at distinct
  have was : attempt < taken := by
    have there : attempt ∈ List.range target := all.subset (by simp [ledger, held])
    have unqueued : attempt ∉ crew.queue.attempts := fun queued =>
      distinct.2.2 attempt held attempt (List.mem_append_right _ queued) rfl
    rw [queue, List.mem_range'_1] at unqueued
    have := List.mem_range.1 there
    omega
  -- What comes before the attempt has been taken, so what is missing of it is with other workers.
  have inside : ((List.range attempt).filter fun earlier => earlier ∉ crew.log.past) ⊆
      crew.held.erase attempt := by
    intro earlier member
    obtain ⟨before, missing⟩ := List.mem_filter.1 member
    rw [List.mem_range] at before
    have there : earlier ∈ crew.ledger :=
      all.mem_iff.2 (List.mem_range.2 (Nat.lt_of_lt_of_le (Nat.lt_trans before was) bound))
    rw [ledger, List.mem_append, List.mem_append, queue, List.mem_range'_1] at there
    rcases there with (busy | past) | queued
    · exact (List.mem_erase_of_ne (Nat.ne_of_lt before)).2 busy
    · exact absurd past (by simpa using missing)
    · omega
  have shorter := ((@List.nodup_range attempt).filter fun earlier =>
    decide (earlier ∉ crew.log.past)).subperm inside |>.length_le
  rw [List.length_erase_of_mem held] at shorter
  have workers : crew.held.length ≤ crew.stages.size := length_gather_le _ _
  omega

theorem keepsUp_reached (h : Reached observer supply (request.crew observer) crew) :
    KeepsUp (request.effectiveWorkers.toNat - 1) crew.log.past := by
  induction h with
  | refl =>
    rw [Log.past, view_crew ofWork_past?]
    exact keepsUp_nil _
  | tail reached change ih =>
    obtain ⟨_, change⟩ := change
    rcases past_change change with same | ⟨attempt, held, more⟩
    · rw [same]
      exact ih
    · rw [more]
      apply ih.concat
      rw [← size_reached reached]
      exact few_unfinished (holdsLast_reached reached) (ledger_reached reached) held

theorem timely_reached (h : Reached observer supply (request.crew observer) crew) :
    crew.log.Timely request.effectiveWorkers.toNat := by
  have distinct : crew.ledger.Nodup := (ledger_reached h).nodup_iff.2 List.nodup_range
  rw [ledger, List.append_assoc, List.nodup_append, List.nodup_append] at distinct
  exact (keepsUp_reached h).timely distinct.2.1.1

theorem past_joined (observer : Observer) (crew : Crew) :
    (crew.joined observer).log.past = crew.log.past ++ crew.queue.attempts := by
  rw [Log.past, view_joined observer crew ofWork_past?.untraced]
  exact congrArg _ (List.filterMap_some)

theorem timely_joined (h : Reached observer supply (request.crew observer) crew)
    (allOver : crew.isOver = true) :
    (crew.joined observer).log.Timely request.effectiveWorkers.toNat := by
  obtain ⟨taken, bound, queue⟩ := holdsLast_reached h
  have all := ledger_reached h
  rw [ledger, held, gather_of_isOver allOver fun _ => rfl, List.nil_append] at all
  have past := all
  rw [queue, range_eq_append bound, List.perm_append_right_iff] at past
  have every := past_joined observer crew
  have keepsUp := (keepsUp_reached h).append_range' past (request.target.toNat - taken)
  rw [← queue, ← every] at keepsUp
  refine keepsUp.timely ?_
  rw [every]
  exact all.nodup_iff.2 List.nodup_range

/-- Attempts are begun in their order, and nobody has taken one that is not begun. -/
structure InLine (target : Nat) (crew : Crew) : Prop where
  begun : crew.Begun
  line : crew.log.began ++ crew.queue.attempts = List.range target

theorem inLine_step (passive : ∀ worker, action ≠ .advance worker) (h : crew.InLine target) :
    (crew.step observer action).InLine target := by
  rcases step_eq_or_change observer (allows_anything crew action) with same | change
  · rw [same]
    exact h
  · generalize crew.step observer action = crew' at change
    refine ⟨fun other attempt here => ?_, ?_⟩
    · by_cases mine : other = action.worker
      · rw [mine] at here
        obtain ⟨old, shared, -, shift, -⟩ := change.acted here
        cases shift with
        | @take worker => exact passive worker rfl
      · rw [change.stages_of_ne mine] at here
        exact h.begun other attempt here
    · have line := h.line
      obtain ⟨-, shift⟩ := change
      cases shift with
      | finish | abandon | leave => simpa using line
      | @start worker | @take worker | @stop worker | @begin worker | @record worker
      | @tell worker | @die worker => exact absurd rfl (passive worker)

structure InTurnLine (target worker : Nat) (crew : Crew) : Prop where
  others : ∀ other attempt : Nat, other ≠ worker → crew.stages[other]? ≠ some (.assigned attempt)
  line : crew.log.began ++ (crew.stages[worker]?.bind Stage.assigned?).toList ++
    crew.queue.attempts = List.range target

theorem InLine.inTurn (h : crew.InLine target) (worker : Nat) : crew.InTurnLine target worker := by
  refine ⟨fun other attempt _ => h.begun other attempt, ?_⟩
  have none : crew.stages[worker]?.bind Stage.assigned? = none := by
    rw [Option.bind_eq_none_iff]
    intro stage here
    cases stage with
    | assigned attempt => exact absurd here (h.begun worker attempt)
    | fresh | idle | waiting | settled | recorded | ended => rfl
  rw [none, Option.toList_none, List.append_nil]
  exact h.line

theorem inTurnLine_change (own : ∀ worker, action ≠ .cancel worker)
    (change : Change observer supply action crew crew')
    (h : crew.InTurnLine target action.worker) : crew'.InTurnLine target action.worker := by
  refine ⟨fun other attempt different => ?_, ?_⟩
  · rw [change.stages_of_ne different]
    exact h.others other attempt different
  · have line := h.line
    obtain @⟨old, new, shared, here, shift⟩ := change
    rw [here] at line
    rw [shift.arrives here]
    cases shift with
    | take taken => simpa [taken] using line
    | @abandon worker | @leave worker => exact absurd rfl (own worker)
    | start | stop | begin | finish | record | tell | die => simpa using line

/-- A worker that rests has begun what it has taken, so after its turn the line is whole again. -/
theorem inLine_turn (observer : Observer) (plan : Plan) (worker : Nat) (h : crew.InLine target) :
    (crew.turn observer plan worker).InLine target := by
  have after : (crew.turn observer plan worker).InTurnLine target worker := by
    refine turn_invariant (fun after => after.InTurnLine target worker)
      (fun before action next ih => ?_) (h.inTurn worker)
    rcases step_eq_or_change observer (allows_anything before action) with same | change
    · rw [same]
      exact ih
    · have mine := worker_of_next next
      subst mine
      refine inTurnLine_change (fun worker cancels => ?_) change ih
      subst cancels
      rcases own_of_next next with impossible | ⟨outcome, impossible⟩ <;> cases impossible
  have rests := rests_turn observer plan worker crew
  have none : (crew.turn observer plan worker).stages[worker]?.bind Stage.assigned? = none := by
    rw [Option.bind_eq_none_iff]
    intro stage here
    rw [Rests, here] at rests
    cases stage with
    | assigned => cases rests
    | fresh | idle | waiting | settled | recorded | ended => rfl
  refine ⟨fun other attempt here => ?_, ?_⟩
  · by_cases mine : other = worker
    · rw [mine] at here
      rw [here] at none
      cases none
    · exact after.others other attempt mine here
  · have line := after.line
    rwa [none, Option.toList_none, List.append_nil] at line

theorem inLine_release (items : List (Nat × Outcome)) (h : crew.InLine target) :
    (crew.release observer items).1.InLine target :=
  release_invariant (InLine target) items
    (fun _ _ _ sofar => inLine_step (fun _ advances => by cases advances) sofar) h

theorem inLine_cancelAll (h : crew.InLine target) : (crew.cancelAll observer).InLine target :=
  cancelAll_invariant (InLine target)
    (fun _ sofar => inLine_step (fun _ advances => by cases advances) sofar) h

theorem inLine_crew (request : Request) (observer : Observer) :
    (request.crew observer).InLine request.target.toNat := by
  refine ⟨fun worker attempt here => ?_, ?_⟩
  · cases Request.fresh_of_crew here
  rw [Log.began, view_crew ofWork_began?]
  rfl

theorem inLine_labor (request : Request) (observer : Observer) (plan : Plan) (steps : List Step) :
    ((request.crew observer).labor observer plan steps).crew.InLine request.target.toNat :=
  heeds_invariant (InLine request.target.toNat) (inLine_turn observer plan) inLine_release
    inLine_cancelAll steps
    (turns_invariant (InLine request.target.toNat) (inLine_turn observer plan) _
      (inLine_crew request observer))

theorem reached_labor (request : Request) (observer : Observer) (plan : Plan)
    (steps : List Step) :
    Reached observer anything (request.crew observer)
      ((request.crew observer).labor observer plan steps).crew :=
  heeds_of_step (Reached observer anything (request.crew observer))
    (fun action reached => reached_step reached (allows_anything _ action)) steps
    (reached_turns plan.within_anything .refl _)

theorem InLine.split (h : crew.InLine target) (last : crew.HoldsLast target) :
    ∃ taken ≤ target, crew.log.began = List.range taken ∧
      crew.queue.attempts = List.range' taken (target - taken) := by
  obtain ⟨taken, bound, queue⟩ := last
  have line := h.line
  rw [queue, range_eq_append bound, List.append_cancel_right_eq] at line
  exact ⟨taken, bound, line, queue⟩

theorem queue_settle (request : Request) (observer : Observer) (crew : Crew) (pool : Pool) :
    (crew.settle request observer pool).1.queue.attempts = [] := by
  rw [settle_eq]
  exact congrArg Queue.attempts (queue_joined observer crew)

end Crew

/-- How many attempts a crew has begun, and what has become of all others. -/
structure Run.Dispatched (target taken : Nat) (run : Run) : Prop where
  began : run.crew.log.began = List.range taken
  /-- Those not begun are in the queue until the warm-up gets a result. -/
  queued : run.conclusion = none ∨ run.conclusion = some .cancelled →
    run.crew.queue.attempts = List.range' taken (target - taken) ∧ run.crew.log.neverRun = []
  drained : run.conclusion ≠ none → run.conclusion ≠ some .cancelled →
    run.crew.queue.attempts = [] ∧ run.crew.log.neverRun = List.range' taken (target - taken)

namespace Run

open Crew

variable {request : Request} {observer : Observer} {plan : Plan} {pool : Pool} {labor : Labor}
  {run : Run}

section
variable {target taken : Nat}

theorem Dispatched.pending (unsettled : run.conclusion = none ∨ run.conclusion = some .cancelled)
    (began : run.crew.log.began = List.range taken)
    (queue : run.crew.queue.attempts = List.range' taken (target - taken))
    (none : run.crew.log.neverRun = []) : run.Dispatched target taken := by
  refine ⟨began, fun _ => ⟨queue, none⟩, fun concluded uncancelled => ?_⟩
  rcases unsettled with unfinished | cancelled
  · exact absurd unfinished concluded
  · exact absurd cancelled uncancelled

theorem Dispatched.settled (concluded : run.conclusion ≠ none)
    (uncancelled : run.conclusion ≠ some .cancelled)
    (began : run.crew.log.began = List.range taken) (empty : run.crew.queue.attempts = [])
    (all : run.crew.log.neverRun = List.range' taken (target - taken)) :
    run.Dispatched target taken := by
  refine ⟨began, fun unsettled => ?_, fun _ _ => ⟨empty, all⟩⟩
  rcases unsettled with unfinished | cancelled
  · exact absurd unfinished concluded
  · exact absurd cancelled uncancelled

end

theorem HasResultOf.dispatched (hasResult : HasResultOf request observer plan pool labor run)
    (reached : Reached observer anything (request.crew observer) labor.crew)
    (inLine : labor.crew.InLine request.target.toNat) :
    (∃ taken ≤ request.target.toNat, run.Dispatched request.target.toNat taken) ∧
      run.crew.log.Timely request.effectiveWorkers.toNat := by
  obtain ⟨taken, bound, began, queue⟩ := inLine.split (holdsLast_reached reached)
  have timely := timely_reached reached
  have none := neverRun_reached reached
  cases allOver : labor.crew.isOver with
  | false =>
    have same : run.crew = labor.crew := congrArg Run.crew (hasResult.eq_of_alive allOver)
    rw [← same] at began queue none timely
    exact ⟨⟨taken, bound, .pending (.inl (hasResult.unfinished allOver)) began queue none⟩, timely⟩
  | true =>
    cases givenUp : labor.givenUp with
    | true =>
      obtain ⟨same, cancelled⟩ := hasResult.dropped allOver givenUp
      have view {α : Type} {find : Happening → Option α} (ofWork : OfWork find) :
          run.crew.log.view find = labor.crew.log.view find := by
        rw [same]
        exact view_dropped labor.crew ofWork
      have queue' : run.crew.queue = labor.crew.queue := by
        rw [same]
        rfl
      rw [← queue'] at queue
      exact ⟨⟨taken, bound, .pending (.inr cancelled) ((view ofWork_began?).trans began) queue
          ((view ofWork_neverRun?).trans none)⟩,
        timely.of_view (view ofWork_past?) (view ofWork_established?)⟩
    | false =>
      obtain ⟨same, concluded⟩ := hasResult.settled allOver givenUp
      obtain ⟨_, course, -⟩ :=
        settle_course request observer labor.crew pool (faithful_reached reached)
      have view {α : Type} {find : Happening → Option α} (ofWork : OfWork find) :
          run.crew.log.view find = (labor.crew.joined observer).log.view find := by
        rw [same]
        exact view_settle ofWork
      refine ⟨⟨taken, bound, .settled ?_ ?_ ?_ ?_ ?_⟩,
        (timely_joined reached allOver).of_view (view ofWork_past?) (view ofWork_established?)⟩
      · simp [concluded]
      · rw [concluded]
        exact fun impossible => course.not_cancelled (Option.some.inj impossible)
      · rw [same, ← began]
        exact view_settle_of_none ofWork_began? fun _ => rfl
      · rw [same]
        exact queue_settle request observer labor.crew pool
      · rw [same, ← queue]
        exact neverRun_settle reached pool

theorem Phase.timely_of_unbegun {supply : Supply} {crew : Crew} {after : Pool}
    {conclusion : Option Conclusion}
    (phase : Phase request observer plan supply pool crew after conclusion)
    (unbegun : ¬ request.Begins observer) :
    crew.log.Timely request.effectiveWorkers.toNat := by
  have none : crew.log.past = [] := by
    cases phase with
    | rejected => rfl
    | refused => simp [ofCounts]
    | running begins | dropped begins | settled begins => exact absurd begins unbegun
  apply KeepsUp.timely
  · rw [none]
    exact keepsUp_nil _
  · rw [none]
    exact List.nodup_nil

/-- Attempts are taken in ascending order, whatever the workers do in whatever order, and what is
not taken waits in the queue until the crew has been waited for. When an attempt is over, at most as
many earlier ones are missing as there are other workers, so that none is over much earlier than its
number says, and with a single worker they all come to their ends in their order. A run on a single
thread also begins them in that order. -/
theorem dispatch_in_order (request : Request) (level : Option Level) (plan : Plan) (pool : Pool)
    (steps : List Step) :
    let observer := Observer.ofRequest request level
    let target := request.target.toNat
    let workers := (min request.target request.workers).toNat
    let run := (play request level plan pool steps).1
    run.crew.log.Timely workers ∧
      (request.Begins observer → ∃ taken ≤ target, run.Dispatched target taken) ∧
      ∀ actions : List Action,
        let crew := (request.crew observer).run observer actions
        let joined := (crew.reportMishaps observer).recordNeverRun
        crew.log.Timely workers ∧
          ∃ taken ≤ target,
            (request.crew observer).takings observer actions = List.range taken ∧
            crew.queue.attempts = List.range' taken (target - taken) ∧
            (crew.held ++ crew.log.past).Perm (List.range taken) ∧
            (crew.isOver = true → joined.queue.attempts = [] ∧
              joined.log.neverRun = List.range' taken (target - taken) ∧
              joined.log.Timely workers) := by
  intro observer target workers run
  have dispatched (begins : request.Begins observer) :=
    HasResultOf.dispatched (hasResultOf_play begins plan pool steps)
      (reached_labor request observer plan steps)
      (inLine_labor request observer plan steps)
  refine ⟨?_, fun begins => (dispatched begins).1, fun actions => ?_⟩
  · by_cases begins : request.Begins observer
    · exact (dispatched begins).2
    · have inPhase : InPhase request observer plan anything pool run :=
        inPhase_play request level plan pool steps
      exact inPhase.phase.timely_of_unbegun begins
  · intro crew joined
    have reached : Reached observer anything (request.crew observer) crew := reached_run _ actions
    obtain ⟨taken, bound, queue⟩ := holdsLast_reached reached
    have all := (request.crew observer).takings_append_queue observer actions
    have ledger := ledger_reached reached
    refine ⟨timely_reached reached, taken, bound, ?_, queue, ?_, fun allOver => ⟨?_, ?_, ?_⟩⟩
    · have before : (request.crew observer).queue.attempts = List.range target := rfl
      rw [queue, before, range_eq_append bound, List.append_cancel_right_eq] at all
      exact all
    · rwa [Crew.ledger, queue, range_eq_append bound, List.perm_append_right_iff] at ledger
    · exact congrArg Queue.attempts (queue_joined observer crew)
    · rw [← queue]
      exact neverRun_joined reached
    · exact timely_joined reached allOver

end Run

end Preconnect
