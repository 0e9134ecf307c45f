/-!
The attempts that wait for a worker. They are handed out in ascending order, each once.
-/
namespace Preconnect

@[ext] structure Queue where
  attempts : List Nat
  deriving DecidableEq

namespace Queue

def ofTarget (target : Nat) : Queue := ⟨List.range target⟩

def next? (queue : Queue) : Option (Nat × Queue) :=
  match queue.attempts with
  | [] => none
  | attempt :: rest => some (attempt, ⟨rest⟩)

def drain (queue : Queue) : List Nat × Queue := (queue.attempts, ⟨[]⟩)

theorem next?_eq_some_iff {queue queue' : Queue} {attempt : Nat} :
    queue.next? = some (attempt, queue') ↔ queue.attempts = attempt :: queue'.attempts := by
  cases queue with
  | mk attempts => cases attempts <;> simp [next?, Queue.ext_iff]

theorem next?_eq_none_iff {queue : Queue} : queue.next? = none ↔ queue.attempts = [] := by
  cases queue with
  | mk attempts => cases attempts <;> simp [next?]

end Queue

end Preconnect
