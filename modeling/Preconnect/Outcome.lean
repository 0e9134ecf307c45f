import Preconnect.Error

/-!
How an attempt to connect can go, and what remains of it: a connection, or the error that is
recorded. A panic leaves the same error wherever in the attempt it comes from.
-/
namespace Preconnect

instance decidableEqExcept {ε α : Type} [DecidableEq ε] [DecidableEq α] :
    DecidableEq (Except ε α)
  | .ok a, .ok b => decidable_of_iff (a = b) ⟨congrArg Except.ok, Except.ok.inj⟩
  | .error a, .error b => decidable_of_iff (a = b) ⟨congrArg Except.error, Except.error.inj⟩
  | .ok _, .error _ => .isFalse fun same => by cases same
  | .error _, .ok _ => .isFalse fun same => by cases same

abbrev Connection := String

inductive Outcome
  | ok (connection : Connection)
  | fail (error : Error)
  | panic (payload : Payload)
  /-- A panic before the establisher has returned anything to wait for. -/
  | earlyPanic (payload : Payload)
  deriving DecidableEq

def Outcome.result : Outcome → Except Error Connection
  | ok connection => .ok connection
  | fail error => .error error
  | panic payload | earlyPanic payload => .error (.ofPanic payload)

end Preconnect
