import Preconnect.Payload

/-!
What can go wrong in a warm-up. Errors wrap one another: an error may carry an I/O error, a foreign
cause or the failure of one attempt, each of which may carry an error again.
-/
namespace Preconnect

inductive IoKind
  | notFound | permissionDenied | connectionRefused | connectionReset | connectionAborted
  | notConnected | addrInUse | addrNotAvailable | brokenPipe | alreadyExists | wouldBlock
  | invalidInput | invalidData | timedOut | writeZero | interrupted | unsupported
  | unexpectedEof | outOfMemory | other
  deriving DecidableEq, Inhabited

inductive InvalidArgument
  | noTarget
  | noWorkers
  deriving DecidableEq, Inhabited

/-- What went wrong in the warm-up itself: an attempt that no worker ran, or the abnormal end of a
worker. -/
inductive Mishap
  | neverRun
  | workerPanicked (payload : Payload)
  | workerCancelled
  deriving DecidableEq, Inhabited

mutual

structure Error where
  kind : Kind

inductive Kind
  | invalidArgument (reason : InvalidArgument)
  | establishment (message : String)
  | io (error : IoError)
  | custom (cause : Cause)
  | panicked (payload : Payload)
  | warmupFailed (failure : Failure)
  | internal (mishap : Mishap)

inductive Cause
  | message (text : String)
  | error (error : Error)
  | kind (kind : Kind)
  | io (error : IoError)
  | failure (failure : Failure)

inductive IoError
  | plain (kind : IoKind)
  | message (kind : IoKind) (text : String)
  | around (kind : IoKind) (error : Error)

structure Failure where
  attempt : Nat
  error : Error

end

deriving instance DecidableEq for Error, Kind, Cause, IoError, Failure

instance : Inhabited Kind := ⟨.internal .neverRun⟩
instance : Inhabited Error := ⟨⟨default⟩⟩
instance : Inhabited Failure := ⟨⟨0, default⟩⟩

def Kind.name : Kind → String
  | .invalidArgument _ => "InvalidArgument"
  | .establishment _ => "ConnectionEstablishment"
  | .io _ => "Io"
  | .custom _ => "Custom"
  | .panicked _ => "EstablishmentPanicked"
  | .warmupFailed _ => "WarmupFailed"
  | .internal _ => "Internal"

namespace Error

def ofPanic (payload : Payload) : Error := ⟨.panicked payload⟩

def neverRun : Error := ⟨.internal .neverRun⟩

def isWarmupFailure (error : Error) : Bool :=
  match error.kind with
  | .warmupFailed _ => true
  | _ => false

def isNetworkError (error : Error) : Bool :=
  match error.kind with
  | .io _ => true
  | _ => false

def failure? (error : Error) : Option Failure :=
  match error.kind with
  | .warmupFailed failure => some failure
  | _ => none

end Error

end Preconnect
