import Preconnect.Outcome
import Preconnect.Pool
import Preconnect.Trace

/-!
The log of a warm-up: all that happens in it, in the order in which it happens. What an answer
tells about a warm-up is a view of its log.
-/
namespace Preconnect

inductive Happening
  | began (worker attempt : Nat)
  /-- A worker recorded the result of an attempt. -/
  | finished (worker attempt : Nat) (result : Except Error Connection)
  /-- A worker was cancelled with an attempt that had no recorded result. -/
  | abandoned (worker attempt : Nat)
  /-- An attempt was recorded as failed because no worker was left to run it. -/
  | neverRun (attempt : Nat)
  | traced (record : Record)
  | emitted (event : Event)
  | called (call : PoolCall)
  | dropped (connection : Connection)
  deriving DecidableEq

structure Log where
  happenings : Array Happening := #[]

namespace Log

def size (log : Log) : Nat := log.happenings.size

def toList (log : Log) : List Happening := log.happenings.toList

def add (log : Log) (happening : Happening) : Log := ⟨log.happenings.push happening⟩

@[simp] theorem toList_add (log : Log) (happening : Happening) :
    (log.add happening).toList = log.toList ++ [happening] := Array.toList_push

def drop (log : Log) (connections : List Connection) : Log :=
  connections.foldl (fun log connection => log.add (.dropped connection)) log

def since (log : Log) (size : Nat) : List Happening := (log.happenings.extract size).toList

theorem since_eq_drop (log : Log) (size : Nat) : log.since size = log.toList.drop size := by
  rw [since, Array.toList_extract, toList]
  simp [List.take_of_length_le]

theorem toList_drop (log : Log) (connections : List Connection) :
    (log.drop connections).toList = log.toList ++ connections.map .dropped := by
  induction connections generalizing log with
  | nil => simp [drop]
  | cons connection rest ih =>
    have := ih (log.add (.dropped connection))
    simpa [drop] using this

end Log

namespace Happening

def began? : Happening → Option Nat
  | began _ attempt => some attempt
  | _ => none

def abandoned? : Happening → Option Nat
  | abandoned _ attempt => some attempt
  | _ => none

def traced? : Happening → Option Record
  | traced record => some record
  | _ => none

def emitted? : Happening → Option Event
  | emitted event => some event
  | _ => none

def called? : Happening → Option PoolCall
  | called call => some call
  | _ => none

def dropped? : Happening → Option Connection
  | dropped connection => some connection
  | _ => none

def inFlightChange : Happening → Int
  | began .. => 1
  | finished .. | abandoned .. => -1
  | _ => 0

end Happening

def Log.mostInFlight (log : Log) : Nat :=
  (log.happenings.foldl (fun (now, most) happening =>
    (now + happening.inFlightChange, max most (now + happening.inFlightChange).toNat))
    ((0 : Int), 0)).2

end Preconnect
