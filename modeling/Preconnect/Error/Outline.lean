import Preconnect.Error.Display
import Preconnect.Text.Outline

/-!
The structure of errors as text: unlike the display text it shows every layer by name.
-/
namespace Preconnect

open Text (Outline quoted)

def IoKind.name : IoKind → String
  | .notFound => "NotFound"
  | .permissionDenied => "PermissionDenied"
  | .connectionRefused => "ConnectionRefused"
  | .connectionReset => "ConnectionReset"
  | .connectionAborted => "ConnectionAborted"
  | .notConnected => "NotConnected"
  | .addrInUse => "AddrInUse"
  | .addrNotAvailable => "AddrNotAvailable"
  | .brokenPipe => "BrokenPipe"
  | .alreadyExists => "AlreadyExists"
  | .wouldBlock => "WouldBlock"
  | .invalidInput => "InvalidInput"
  | .invalidData => "InvalidData"
  | .timedOut => "TimedOut"
  | .writeZero => "WriteZero"
  | .interrupted => "Interrupted"
  | .unsupported => "Unsupported"
  | .unexpectedEof => "UnexpectedEof"
  | .outOfMemory => "OutOfMemory"
  | .other => "Other"

def Kind.messageOutline (name message : String) : Outline :=
  .record name [("message", .leaf (quoted message))]

def IoError.customOutline (kind : IoKind) (error : Outline) : Outline :=
  .record "Custom" [("kind", .leaf kind.name), ("error", error)]

mutual

def Error.outline : Error → Outline
  | ⟨kind⟩ => .record "Error" [("kind", kind.outline)]

def Kind.outline : Kind → Outline
  | .invalidArgument reason => Kind.messageOutline "InvalidArgument" reason.message
  | .establishment message => Kind.messageOutline "ConnectionEstablishment" message
  | .io error => .apply "Io" [error.outline]
  | .custom cause => .apply "Custom" [cause.outline]
  | .panicked payload => Kind.messageOutline "EstablishmentPanicked" payload.message
  | .warmupFailed failure => .apply "WarmupFailed" [failure.outline]
  | .internal mishap => Kind.messageOutline "Internal" mishap.message

def Cause.outline : Cause → Outline
  | .message text => .apply "Custom" [.leaf (quoted text)]
  | .error error => error.outline
  | .kind kind => kind.outline
  | .io error => error.outline
  | .failure failure => failure.outline

def IoError.outline : IoError → Outline
  | .plain kind => .apply "Kind" [.leaf kind.name]
  | .message kind text => IoError.customOutline kind (.leaf (quoted text))
  | .around kind error => IoError.customOutline kind error.outline

def Failure.outline : Failure → Outline
  | ⟨attempt, error⟩ =>
    .record "FailureRecord" [("attempt", .leaf (toString attempt)), ("error", error.outline)]

end

end Preconnect
