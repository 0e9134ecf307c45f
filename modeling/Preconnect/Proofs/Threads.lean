import Preconnect.Blocking
import Preconnect.Proofs.Deaths

/-!
Calls on threads. Workers and the threads that they wait for go on in any order. A thread makes its
call when it gets to it, so that calls are not numbered like the attempts that they are made for.
-/
namespace Preconnect

structure Threads where
  crew : Crew
  /-- The attempts whose calls have begun, in the order of the calls. -/
  calls : List Nat := []

namespace Threads

/-- The next thing that the worker does, or the thread that it waits for: it begins its call, or it
hands over what the call has come to. -/
def act (observer : Observer) (outcomes : Nat → Outcome) (threads : Threads) (worker : Nat) :
    Threads :=
  match threads.crew.stages[worker]? with
  | some (.waiting attempt _) =>
    if attempt ∈ threads.calls then
      { threads with
        crew := threads.crew.step observer
          (.finish worker (outcomes (threads.calls.idxOf attempt)).onThread) }
    else { threads with calls := threads.calls ++ [attempt] }
  | _ => { threads with crew := threads.crew.step observer (.advance worker) }

def race (observer : Observer) (outcomes : Nat → Outcome) (threads : Threads)
    (schedule : List Nat) : Threads :=
  schedule.foldl (act observer outcomes) threads

inductive Acts (observer : Observer) (outcomes : Nat → Outcome) (threads : Threads)
    (worker : Nat) : Threads → Prop
  | call {attempt number : Nat}
      (waits : threads.crew.stages[worker]? = some (.waiting attempt number))
      (uncalled : attempt ∉ threads.calls) :
    Acts observer outcomes threads worker { threads with calls := threads.calls ++ [attempt] }
  | comeBack {attempt number : Nat}
      (waits : threads.crew.stages[worker]? = some (.waiting attempt number))
      (called : attempt ∈ threads.calls) :
    Acts observer outcomes threads worker
      { threads with
        crew := threads.crew.step observer
          (.finish worker (outcomes (threads.calls.idxOf attempt)).onThread) }
  | work (free : ∀ attempt number,
        threads.crew.stages[worker]? ≠ some (.waiting attempt number)) :
    Acts observer outcomes threads worker
      { threads with crew := threads.crew.step observer (.advance worker) }

variable {observer : Observer} {outcomes : Nat → Outcome} {request : Request}
  {threads threads' : Threads} {worker other : Nat} {order schedule : List Nat}

theorem acts_act (observer : Observer) (outcomes : Nat → Outcome) (threads : Threads)
    (worker : Nat) :
    Acts observer outcomes threads worker (threads.act observer outcomes worker) := by
  unfold act
  split
  · rename_i attempt number waits
    split
    · exact .comeBack waits ‹_›
    · exact .call waits ‹_›
  · exact .work ‹_›

theorem race_append (observer : Observer) (outcomes : Nat → Outcome) (threads : Threads)
    (earlier later : List Nat) :
    threads.race observer outcomes (earlier ++ later) =
      (threads.race observer outcomes earlier).race observer outcomes later :=
  List.foldl_append

theorem race_invariant (holds : Threads → Prop)
    (keep : ∀ {threads threads' worker}, Acts observer outcomes threads worker threads' →
      holds threads → holds threads')
    (start : holds threads) (schedule : List Nat) :
    holds (threads.race observer outcomes schedule) := by
  induction schedule generalizing threads with
  | nil => exact start
  | cons worker rest ih => exact ih (keep (acts_act ..) start)

theorem Acts.calls (acts : Acts observer outcomes threads worker threads') :
    threads.calls <+: threads'.calls := by
  cases acts with
  | call => exact List.prefix_append _ _
  | comeBack | work => exact List.prefix_rfl

theorem calls_race (observer : Observer) (outcomes : Nat → Outcome) (threads : Threads)
    (schedule : List Nat) :
    threads.calls <+: (threads.race observer outcomes schedule).calls := by
  exact race_invariant (fun after => threads.calls <+: after.calls)
    (fun acts ih => ih.trans acts.calls) List.prefix_rfl schedule

theorem Acts.size_stages (acts : Acts observer outcomes threads worker threads') :
    threads'.crew.stages.size = threads.crew.stages.size := by
  have size (action : Action) :
      (threads.crew.step observer action).stages.size = threads.crew.stages.size := by
    rcases Crew.step_eq_or_change observer (Crew.allows_anything threads.crew action) with
      same | change
    · rw [same]
    · exact change.size_stages
  cases acts with
  | call => rfl
  | comeBack | work => exact size _

/-- An attempt comes to what its call comes to, by the order of the calls. -/
def ordered (outcomes : Nat → Outcome) (order : List Nat) : Crew.Supply := fun attempt outcome =>
  attempt ∈ order ∧ outcome = (outcomes (order.idxOf attempt)).onThread

open Crew

theorem Acts.reached (acts : Acts observer outcomes threads worker threads')
    (part : threads'.calls <+: order) :
    Reached observer (ordered outcomes order) threads.crew threads'.crew := by
  cases acts with
  | call => exact .refl
  | work =>
    dsimp only
    exact reached_step .refl trivial
  | comeBack waits called =>
    dsimp only
    apply reached_step .refl
    intro attempt number here
    cases here.symm.trans waits
    refine ⟨part.subset called, ?_⟩
    rw [part.idxOf_eq_of_mem called]

/-- Whatever the calls come to and in whatever order they begin, the crew takes steps of its own. -/
theorem reached_race (observer : Observer) (outcomes : Nat → Outcome) (threads : Threads)
    (schedule : List Nat)
    (part : (threads.race observer outcomes schedule).calls <+: order) :
    Reached observer (ordered outcomes order) threads.crew
      (threads.race observer outcomes schedule).crew := by
  induction schedule generalizing threads with
  | nil => exact .refl
  | cons worker rest ih =>
    have acts := acts_act observer outcomes threads worker
    have later := calls_race observer outcomes (threads.act observer outcomes worker) rest
    exact (acts.reached (later.trans part)).trans (ih _ part)

end Threads

namespace Crew

variable {observer : Observer} {supply supply' : Supply} {origin crew crew' : Crew}

theorem Reached.mono (within : ∀ attempt outcome, supply attempt outcome → supply' attempt outcome)
    (h : Reached observer supply origin crew) : Reached observer supply' origin crew := by
  refine Relation.ReflTransGen.mono ?_ _ _ h
  rintro before after ⟨action, here, shift⟩
  refine ⟨action, here, ?_⟩
  cases shift with
  | start => exact .start
  | take taken => exact .take taken
  | stop empty => exact .stop empty
  | begin => exact .begin
  | finish supplied => exact .finish (within _ _ supplied)
  | record => exact .record
  | tell returned => exact .tell returned
  | die panicked => exact .die panicked
  | abandon held => exact .abandon held
  | leave alive free => exact .leave alive free

theorem lt_target_of_held {request : Request} {worker attempt : Nat} {stage : Stage}
    (h : Reached observer supply (request.crew observer) crew)
    (here : crew.stages[worker]? = some stage) (held : stage.held? = some attempt) :
    attempt < request.target.toNat := by
  have among : attempt ∈ crew.held := by
    apply List.mem_filterMap.2
    exact ⟨stage, Array.mem_toList_iff.2 (Array.mem_of_getElem? here), held⟩
  rw [← List.mem_range, ← (whereabouts_reached h).mem_iff]
  simp [whereabouts, among]

end Crew

namespace Threads

open Crew

variable {observer : Observer} {outcomes : Nat → Outcome} {request : Request}
  {threads threads' : Threads} {worker other : Nat} {order schedule : List Nat}

def ofRequest (request : Request) (observer : Observer) : Threads := ⟨request.crew observer, []⟩

/-- Calls are made once for an attempt at most, and nobody stops a worker. -/
structure Orderly (request : Request) (observer : Observer) (threads : Threads) : Prop where
  reached : Reached observer anything (request.crew observer) threads.crew
  once : threads.calls.Nodup
  bound : ∀ attempt ∈ threads.calls, attempt < request.target.toNat
  uncancelled : ∀ worker : Nat, threads.crew.stages[worker]? ≠ some (.ended .cancelled)

theorem uncancelled_step {crew : Crew} {action : Action}
    (h : ∀ worker : Nat, crew.stages[worker]? ≠ some (.ended .cancelled))
    (spares : ∀ worker, action ≠ .cancel worker) (worker : Nat) :
    (crew.step observer action).stages[worker]? ≠ some (.ended .cancelled) := by
  rcases step_eq_or_change observer (allows_anything crew action) with same | change
  · rw [same]
    exact h worker
  · intro here
    by_cases acts : worker = action.worker
    · rw [acts] at here
      obtain ⟨old, shared, -, shift, -⟩ := change.acted here
      cases shift with
      | abandon | leave => exact spares _ rfl
    · rw [change.stages_of_ne acts] at here
      exact h worker here

theorem orderly_acts (acts : Acts observer outcomes threads worker threads')
    (h : Orderly request observer threads) : Orderly request observer threads' := by
  cases acts with
  | @call attempt number waits uncalled =>
    refine ⟨h.reached, ?_, ?_, h.uncancelled⟩
    · simp [List.nodup_append, h.once]
      rintro other member rfl
      exact uncalled member
    · simp only [List.mem_append, List.mem_singleton]
      rintro other (earlier | rfl)
      · exact h.bound other earlier
      · exact lt_target_of_held h.reached waits rfl
  | comeBack | work =>
    refine ⟨?_, h.once, h.bound, ?_⟩
    · dsimp only
      exact reached_step h.reached (allows_anything _ _)
    · apply uncancelled_step h.uncancelled
      simp

theorem orderly_race (request : Request) (observer : Observer) (outcomes : Nat → Outcome)
    (schedule : List Nat) :
    Orderly request observer ((ofRequest request observer).race observer outcomes schedule) := by
  refine race_invariant (Orderly request observer) orderly_acts ?_ schedule
  refine ⟨.refl, List.nodup_nil, ?_, fun worker here => ?_⟩
  · simp [ofRequest]
  · cases Request.fresh_of_crew here

def owesCall (threads : Threads) (worker : Nat) : Bool :=
  (threads.crew.stages[worker]?.bind Stage.inFlight?).any (· ∉ threads.calls)

def effort (threads : Threads) (worker : Nat) : Nat :=
  2 * threads.crew.effort worker + (threads.owesCall worker).toNat

def Alive (threads : Threads) (worker : Nat) : Prop :=
  ∃ stage, threads.crew.stages[worker]? = some stage ∧ stage.hasEnded = false

theorem alive_of_step {crew : Crew} {action : Action} {stage : Stage}
    (here : (crew.step observer action).stages[worker]? = some stage)
    (alive : stage.hasEnded = false) :
    ∃ stage, crew.stages[worker]? = some stage ∧ stage.hasEnded = false := by
  rcases step_eq_or_change observer (allows_anything crew action) with same | change
  · rw [same] at here
    exact ⟨stage, here, alive⟩
  · have bound : worker < crew.stages.size := by
      rw [← change.size_stages]
      exact (Array.getElem?_eq_some_iff.1 here).1
    refine ⟨_, Array.getElem?_eq_getElem bound, ?_⟩
    cases before : crew.stages[worker] with
    | ended ending =>
      have ended := change.ended ((Array.getElem?_eq_getElem bound).trans (congrArg some before))
      cases here.symm.trans ended
      exact alive
    | fresh | idle | assigned | waiting | settled | recorded => rfl

theorem Acts.alive (acts : Acts observer outcomes threads other threads')
    (alive : threads'.Alive worker) : threads.Alive worker := by
  obtain ⟨stage, here, alive⟩ := alive
  cases acts with
  | call => exact ⟨stage, here, alive⟩
  | comeBack | work => exact alive_of_step here alive

theorem effort_lt_of_crew {crew : Crew}
    (less : crew.effort worker < threads.crew.effort worker) :
    effort { threads with crew } worker < threads.effort worker := by
  have owed := Bool.toNat_lt (owesCall { threads with crew } worker)
  simp only [effort]
  omega

theorem Acts.effort_lt (acts : Acts observer outcomes threads worker threads')
    (alive : threads.Alive worker) : threads'.effort worker < threads.effort worker := by
  obtain ⟨stage, here, alive⟩ := alive
  cases acts with
  | call waits uncalled => simp [effort, owesCall, waits, uncalled, Stage.inFlight?]
  | @comeBack attempt number waits called =>
    apply effort_lt_of_crew
    apply effort_step_lt observer fun _ => some (outcomes (threads.calls.idxOf attempt)).onThread
    rw [waits]
    rfl
  | work free =>
    apply effort_lt_of_crew
    apply effort_step_lt observer fun _ => none
    rw [here]
    cases stage with
    | waiting attempt number => exact absurd here (free attempt number)
    | ended => cases alive
    | fresh | idle | assigned | settled | recorded => rfl

theorem length_queue_change {supply : Supply} {action : Action} {crew crew' : Crew}
    (change : Change observer supply action crew crew') :
    crew'.queue.attempts.length ≤ crew.queue.attempts.length := by
  obtain ⟨-, shift⟩ := change
  cases shift with
  | take taken => simp [taken]
  | start | stop | begin | finish | record | tell | die | abandon | leave => simp

theorem effort_step_le {crew : Crew} {action : Action} (others : worker ≠ action.worker) :
    (crew.step observer action).effort worker ≤ crew.effort worker := by
  rcases step_eq_or_change observer (allows_anything crew action) with same | change
  · simp [same]
  · have shorter := length_queue_change change
    unfold Crew.effort
    rw [change.stages_of_ne others]
    omega

theorem effort_le_of_crew (crews : threads'.crew.effort worker ≤ threads.crew.effort worker)
    (owes : threads'.owesCall worker = true → threads.owesCall worker = true) :
    threads'.effort worker ≤ threads.effort worker := by
  have owed : (threads'.owesCall worker).toNat ≤ (threads.owesCall worker).toNat := by
    cases later : threads'.owesCall worker with
    | false => simp
    | true => simp [owes later]
  simp only [effort]
  omega

theorem Acts.effort_le (acts : Acts observer outcomes threads other threads')
    (others : worker ≠ other) : threads'.effort worker ≤ threads.effort worker := by
  cases acts with
  | call waits uncalled =>
    apply effort_le_of_crew
    · exact Nat.le_refl _
    · simp only [owesCall, Option.any_eq_true]
      rintro ⟨attempt, waiting, owed⟩
      refine ⟨attempt, waiting, ?_⟩
      simp at owed
      simp [owed]
  | comeBack | work =>
    apply effort_le_of_crew
    · exact effort_step_le others
    · simp only [owesCall]
      rw [stages_step_of_ne others]
      exact id

theorem effort_race (schedule : List Nat)
    (alive : (threads.race observer outcomes schedule).Alive worker) :
    threads.Alive worker ∧
      (threads.race observer outcomes schedule).effort worker + schedule.count worker ≤
        threads.effort worker := by
  induction schedule generalizing threads with
  | nil => exact ⟨alive, Nat.le_refl _⟩
  | cons other rest ih =>
    have acts := acts_act observer outcomes threads other
    obtain ⟨before, spent⟩ := ih alive
    refine ⟨acts.alive before, ?_⟩
    simp only [race, List.foldl_cons, List.count_cons] at spent ⊢
    by_cases same : other = worker
    · subst same
      have less := acts.effort_lt (acts.alive before)
      simp
      omega
    · have less := acts.effort_le (Ne.symm same)
      simp [same]
      omega

def patience (request : Request) : Nat := 12 * request.target.toNat + 6

theorem effort_ofRequest (request : Request) (observer : Observer) (worker : Nat) :
    (ofRequest request observer).effort worker < patience request := by
  have queue : (request.crew observer).queue.attempts.length = request.target.toNat := by
    simp [Request.crew, ofCounts, Queue.ofTarget]
  have owed := Bool.toNat_lt ((ofRequest request observer).owesCall worker)
  have rank : (((request.crew observer).stages[worker]?.map Stage.rank).getD 0) ≤ 2 := by
    cases here : (request.crew observer).stages[worker]? with
    | none => simp
    | some stage => simp [Request.fresh_of_crew here, Stage.rank]
  simp only [effort, Crew.effort, patience] at owed ⊢
  simp only [ofRequest, queue] at owed ⊢
  omega

def Fair (request : Request) (schedule : List Nat) : Prop :=
  ∀ worker < request.effectiveWorkers.toNat, patience request ≤ schedule.count worker

theorem isOver_of_fair (observer : Observer) (outcomes : Nat → Outcome)
    (fair : Fair request schedule) :
    ((ofRequest request observer).race observer outcomes schedule).crew.isOver = true := by
  rw [isOver_iff]
  intro worker stage here
  apply Bool.of_not_eq_false
  intro alive
  have spent := (effort_race schedule ⟨stage, here, alive⟩).2
  have bound := effort_ofRequest request observer worker
  have present : worker < request.effectiveWorkers.toNat := by
    rw [← size_reached (orderly_race request observer outcomes schedule).reached]
    exact (Array.getElem?_eq_some_iff.1 here).1
  have turns := fair worker present
  omega

end Threads

end Preconnect
