import Preconnect.Run.Entry

/-!
Warm-ups that follow one another into the same pool. Each takes the pool as the one before has left
it; what is unfinished when its steps are over is thrown away.
-/
namespace Preconnect

structure Script where
  request : Request
  level : Option Level := none
  plan : Plan := fun _ => none
  steps : List Step := []

def Script.play (script : Script) (pool : Pool) : Run × List Entry :=
  Run.play script.request script.level script.plan pool script.steps

/-- Plays scripts one after another, and leaves the pool as the last one does. A text that is no
request takes its place among them and touches nothing. -/
def Script.playAll {ε : Type} (pool : Pool) :
    List (Except ε Script) → List (Except ε (Run × List Entry)) × Pool
  | [] => ([], pool)
  | .error refusal :: rest =>
    let (results, pool) := playAll pool rest
    (.error refusal :: results, pool)
  | .ok script :: rest =>
    let (run, entries) := script.play pool
    let (results, pool) := playAll run.pool rest
    (.ok (run, entries) :: results, pool)

end Preconnect
