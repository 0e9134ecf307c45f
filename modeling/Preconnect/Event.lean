import Preconnect.Error

/-!
What a warm-up tells the outside while it runs: that it began, how each attempt went, which
connections it gave up, and how it ended.
-/
namespace Preconnect

inductive ClosedReason
  /-- The warm-up that established it failed. -/
  | warmupFailed
  deriving DecidableEq

def ClosedReason.display : ClosedReason → String
  | warmupFailed => "warmupFailed"

inductive Notice
  | started (target workers : UInt32) (failFast : Bool)
  | established (attempt : Nat)
  | attemptFailed (attempt : Nat) (error : Error)
  /-- The connection of an attempt was closed because the warm-up failed. -/
  | closed (attempt : Nat)
  | succeeded (established failed : UInt32)
  | failed (failure : Failure) (closed : UInt32)
  deriving DecidableEq

namespace Notice

def name : Notice → String
  | started .. => "WarmupStarted"
  | established _ => "ConnectionEstablished"
  | attemptFailed .. => "ConnectionAttemptFailed"
  | closed _ => "ConnectionClosed"
  | succeeded .. => "WarmupSucceeded"
  | failed .. => "WarmupFailed"

def attempt? : Notice → Option Nat
  | established attempt | attemptFailed attempt _ | closed attempt => some attempt
  | started .. | succeeded .. | failed .. => none

def reason? : Notice → Option ClosedReason
  | closed _ => some .warmupFailed
  | started .. | established _ | attemptFailed .. | succeeded .. | failed .. => none

end Notice

structure Event where
  pool : Option String
  notice : Notice
  deriving DecidableEq

end Preconnect
