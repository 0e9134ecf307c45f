import Preconnect.Error
import Preconnect.Text.Quoted

/-!
The texts of errors for people. Each layer of an error puts one fixed phrase in front of the text
of what it wraps, so the text of the innermost cause always stands at the end.
-/
namespace Preconnect

def IoKind.display : IoKind → String
  | .notFound => "entity not found"
  | .permissionDenied => "permission denied"
  | .connectionRefused => "connection refused"
  | .connectionReset => "connection reset"
  | .connectionAborted => "connection aborted"
  | .notConnected => "not connected"
  | .addrInUse => "address in use"
  | .addrNotAvailable => "address not available"
  | .brokenPipe => "broken pipe"
  | .alreadyExists => "entity already exists"
  | .wouldBlock => "operation would block"
  | .invalidInput => "invalid input parameter"
  | .invalidData => "invalid data"
  | .timedOut => "timed out"
  | .writeZero => "write zero"
  | .interrupted => "operation interrupted"
  | .unsupported => "unsupported"
  | .unexpectedEof => "unexpected end of file"
  | .outOfMemory => "out of memory"
  | .other => "other error"

def InvalidArgument.message : InvalidArgument → String
  | .noTarget => "`target_count` must be at least 1"
  | .noWorkers => "`worker_count` must be at least 1"

def Payload.message : Payload → String
  | .text message => message
  | .unreadable => "unknown panic payload"

def Mishap.message : Mishap → String
  | .neverRun => "connection attempt was never run because its worker terminated"
  | .workerPanicked (.text message) =>
    "background task panicked: task N panicked with message " ++ Text.quoted message
  | .workerPanicked .unreadable => "background task panicked: task N panicked"
  | .workerCancelled => "background task was cancelled: task N was cancelled"

mutual

def Error.display : Error → String
  | ⟨kind⟩ => "Kind: " ++ kind.display

def Kind.display : Kind → String
  | .invalidArgument reason => "An invalid argument was provided: " ++ reason.message
  | .establishment message => "Failed to establish a connection: " ++ message
  | .io error => "I/O error: " ++ error.display
  | .custom cause => cause.display
  | .panicked payload => "Connection establisher panicked: " ++ payload.message
  | .warmupFailed failure => "Connection pool warm-up failed: " ++ failure.display
  | .internal mishap => "Internal error: " ++ mishap.message

def Cause.display : Cause → String
  | .message text => text
  | .error error => error.display
  | .kind kind => kind.display
  | .io error => error.display
  | .failure failure => failure.display

def IoError.display : IoError → String
  | .plain kind => kind.display
  | .message _ text => text
  | .around _ error => error.display

def Failure.display : Failure → String
  | ⟨attempt, error⟩ =>
    "connection attempt " ++ toString attempt ++ " failed: " ++ error.display

end

end Preconnect
