import Preconnect.Crew.Arrivals
import Preconnect.Crew.FirstFailure
import Preconnect.Proofs.Handout

/-!
The histories of what the workers share. A call takes effect in one step, whoever makes it, so the
calls of all callers make up one series, and that in any order. In every series a queue hands each
attempt out at most once and in ascending order, the arrivals lose nothing and keep their order, and
the first failure that is offered stays.
-/
namespace Preconnect

section

variable {State Call Answer : Type} (answer : State → Call → Answer × State)

def serve (state : State) : List Call → List Answer × State
  | [] => ([], state)
  | call :: rest =>
    let (reply, state) := answer state call
    let (replies, state) := serve state rest
    (reply :: replies, state)

theorem getElem?_serve (state : State) (calls : List Call) (i : Nat) :
    (serve answer state calls).1[i]? =
      calls[i]?.map fun call => (answer (serve answer state (calls.take i)).2 call).1 := by
  induction calls generalizing state i with
  | nil => rfl
  | cons call rest ih =>
    cases i with
    | zero => rfl
    | succ i => exact ih (answer state call).2 i

/-- A store from which nothing gets lost in one call loses nothing at all: what was taken out, in
the order of the calls, and what is left make up what was there and what was put in. -/
theorem taken_append_held {Item : Type} (held : State → List Item) (put : Call → List Item)
    (taken : Answer → List Item)
    (kept : ∀ state call, taken (answer state call).1 ++ held (answer state call).2 =
      held state ++ put call)
    (state : State) (calls : List Call) :
    (serve answer state calls).1.flatMap taken ++ held (serve answer state calls).2 =
      held state ++ calls.flatMap put := by
  induction calls generalizing state with
  | nil => exact (List.append_nil _).symm
  | cons call rest ih =>
    rw [serve, List.flatMap_cons, List.flatMap_cons, List.append_assoc, ih, ← List.append_assoc,
      kept, List.append_assoc]

end

namespace Queue

inductive Call
  | next
  | drain
  deriving DecidableEq

inductive Answer
  | next (attempt? : Option Nat)
  | drained (attempts : List Nat)
  deriving DecidableEq

def answer (queue : Queue) : Call → Answer × Queue
  | .next =>
    match queue.next? with
    | some (attempt, queue) => (.next (some attempt), queue)
    | none => (.next none, queue)
  | .drain => (.drained queue.drain.1, queue.drain.2)

def Answer.attempts : Answer → List Nat
  | next attempt? => attempt?.toList
  | drained attempts => attempts

theorem attempts_answer (queue : Queue) (call : Call) :
    (queue.answer call).1.attempts ++ (queue.answer call).2.attempts = queue.attempts := by
  cases call with
  | drain => exact List.append_nil _
  | next =>
    rcases h : queue.next? with _ | ⟨attempt, rest⟩
    · simp [answer, h, Answer.attempts]
    · simp [answer, h, Answer.attempts, next?_eq_some_iff.1 h]

theorem attempts_serve (queue : Queue) (calls : List Call) :
    (serve answer queue calls).1.flatMap Answer.attempts ++ (serve answer queue calls).2.attempts =
      queue.attempts := by
  have all := taken_append_held answer Queue.attempts (fun _ => []) Answer.attempts
    (fun queue call => by rw [attempts_answer, List.append_nil]) queue calls
  rwa [List.flatMap_eq_nil_iff.2 fun _ _ => rfl, List.append_nil] at all

theorem attempts_eq_nil_of_answer {queue : Queue} {call : Call}
    (last : (queue.answer call).1 = .next none ∨ call = .drain) :
    (queue.answer call).2.attempts = [] := by
  cases call with
  | drain => rfl
  | next =>
    rcases h : queue.next? with _ | ⟨attempt, rest⟩
    · simpa [answer, h] using next?_eq_none_iff.1 h
    · simp [answer, h] at last

theorem attempts_serve_eq_nil (queue : Queue) (calls : List Call)
    (last : .next none ∈ (serve answer queue calls).1 ∨ .drain ∈ calls) :
    (serve answer queue calls).2.attempts = [] := by
  induction calls generalizing queue with
  | nil => simp [serve] at last
  | cons call rest ih =>
    by_cases now : (queue.answer call).1 = .next none ∨ call = .drain
    -- What is handed out from here on and what is left in the end make up an empty queue.
    · have all := attempts_serve (queue.answer call).2 rest
      rw [attempts_eq_nil_of_answer now] at all
      exact (List.append_eq_nil_iff.1 all).2
    · rw [not_or] at now
      refine ih _ (last.imp (fun empty => ?_) fun drained => ?_)
      · exact (List.mem_cons.1 empty).resolve_left (Ne.symm now.1)
      · exact (List.mem_cons.1 drained).resolve_left (Ne.symm now.2)

/-- What the answers to a series of calls have handed out of all attempts below the target. -/
structure HandsOut (target : Nat) (calls : List Call) (answers : List Answer) (taken : Nat) :
    Prop where
  bound : taken ≤ target
  handed : answers.flatMap Answer.attempts = List.range taken
  all : .next none ∈ answers ∨ .drain ∈ calls → taken = target

theorem exists_handsOut (target : Nat) (calls : List Call) :
    ∃ taken, HandsOut target calls (serve answer (ofTarget target) calls).1 taken := by
  have all : _ ++ _ = List.range target := attempts_serve (ofTarget target) calls
  have empty := attempts_serve_eq_nil (ofTarget target) calls
  generalize (serve answer (ofTarget target) calls).2.attempts = left at all empty
  generalize (serve answer (ofTarget target) calls).1 = answers at all empty
  have bound : (answers.flatMap Answer.attempts).length ≤ target := by
    have lengths := congrArg List.length all
    rw [List.length_append, List.length_range] at lengths
    omega
  have handed := all
  rw [range_eq_append bound] at handed
  refine ⟨_, bound, (List.append_inj handed (by rw [List.length_range])).1, fun last => ?_⟩
  rw [empty last, List.append_nil] at all
  rw [all, List.length_range]

/-- What is drained is no longer handed out. -/
example : (serve answer (ofTarget 4) [.next, .next, .drain, .next, .drain]).1 =
    [.next (some 0), .next (some 1), .drained [2, 3], .next none, .drained []] := rfl

end Queue

namespace Arrivals

inductive Call
  | append (established : Established)
  | drain
  deriving DecidableEq

inductive Answer
  | appended
  | drained (connections : List Established)
  deriving DecidableEq

def answer (arrivals : Arrivals) : Call → Answer × Arrivals
  | .append established => (.appended, arrivals.append established)
  | .drain => (.drained arrivals.drain.1, arrivals.drain.2)

def Call.connections : Call → List Established
  | append established => [established]
  | drain => []

def Answer.connections : Answer → List Established
  | appended => []
  | drained connections => connections

theorem connections_answer (arrivals : Arrivals) (call : Call) :
    (arrivals.answer call).1.connections ++ (arrivals.answer call).2.held.toList =
      arrivals.held.toList ++ call.connections := by
  cases call with
  | append established => exact toList_held_append arrivals established
  | drain => rfl

end Arrivals

namespace FirstFailure

inductive Call
  | offer (failure : Failure)
  | read
  deriving DecidableEq

inductive Answer
  | offered (stored : Bool)
  | read (failure? : Option Failure)
  deriving DecidableEq

def answer (slot : FirstFailure) : Call → Answer × FirstFailure
  | .offer failure => (.offered (slot.offer failure).2, (slot.offer failure).1)
  | .read => (.read slot.kept, slot)

def Call.failure? : Call → Option Failure
  | offer failure => some failure
  | read => none

abbrev offers (calls : List Call) : List Failure := calls.filterMap Call.failure?

theorem kept_serve (slot : FirstFailure) (calls : List Call) :
    (serve answer slot calls).2.kept = slot.kept.or (offers calls).head? := by
  induction calls generalizing slot with
  | nil => exact (Option.or_none).symm
  | cons call rest ih =>
    refine (ih (slot.answer call).2).trans ?_
    cases call with
    | read => rfl
    | offer failure =>
      show (slot.offer failure).1.kept.or _ = _
      rw [kept_offer, Option.or_assoc, Option.some_or]
      rfl

/-- Only the first failure offered is stored, and all later calls find it there. -/
structure Remembers (calls : List Call) (answers : List Answer) : Prop where
  offered : ∀ i failure, calls[i]? = some (Call.offer failure) →
    answers[i]? = some (Answer.offered (offers (calls.take i)).isEmpty)
  read : ∀ i, calls[i]? = some Call.read →
    answers[i]? = some (Answer.read (offers (calls.take i)).head?)

theorem remembers_serve (calls : List Call) : Remembers calls (serve answer {} calls).1 where
  offered i failure call := by
    rw [getElem?_serve, call, Option.map_some, answer, offer_snd, kept_serve]
    cases offers (calls.take i) <;> rfl
  read i call := by
    rw [getElem?_serve, call, Option.map_some, answer, kept_serve]
    rfl

end FirstFailure

/-- Whoever calls in whatever order, what the workers share keeps its promises. A queue hands out
the first attempts in ascending order, each once, and all of them once it has answered that none is
left or has been drained; the arrivals that were drained, followed by those still held, are all that
were appended, in their order; the first failure offered, and no other, is reported to be stored,
and it is what every later call reads. -/
theorem shared_histories_exact :
    (∀ target calls, ∃ taken, Queue.HandsOut target calls
      (serve Queue.answer (.ofTarget target) calls).1 taken) ∧
    (∀ calls, (serve Arrivals.answer {} calls).1.flatMap Arrivals.Answer.connections ++
        (serve Arrivals.answer {} calls).2.held.toList =
      calls.flatMap Arrivals.Call.connections) ∧
    ∀ calls, FirstFailure.Remembers calls (serve FirstFailure.answer {} calls).1 :=
  ⟨Queue.exists_handsOut,
    fun calls => taken_append_held Arrivals.answer (·.held.toList) Arrivals.Call.connections
      Arrivals.Answer.connections Arrivals.connections_answer {} calls,
    FirstFailure.remembers_serve⟩

end Preconnect
