import Preconnect.Outcome

/-!
The connections that have been established, in the order in which they arrived.
-/
namespace Preconnect

structure Established where
  attempt : Nat
  connection : Connection
  deriving DecidableEq

structure Arrivals where
  held : Array Established := #[]
  deriving DecidableEq

namespace Arrivals

def append (arrivals : Arrivals) (established : Established) : Arrivals :=
  ⟨arrivals.held.push established⟩

def drain (arrivals : Arrivals) : List Established × Arrivals := (arrivals.held.toList, ⟨#[]⟩)

theorem toList_held_append (arrivals : Arrivals) (established : Established) :
    (arrivals.append established).held.toList = arrivals.held.toList ++ [established] :=
  Array.toList_push

end Arrivals

end Preconnect
