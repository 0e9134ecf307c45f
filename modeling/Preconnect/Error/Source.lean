import Preconnect.Error

/-!
The sources of errors, for those who look for the reason of an error in another one. An error has
what it wraps in its own text and does not name it again; only the failure of an attempt does.
-/
namespace Preconnect

def Kind.source? : Kind → Option Cause
  | .invalidArgument _ | .establishment _ | .io _ | .custom _ | .panicked _ | .warmupFailed _
  | .internal _ => none

/-- The kind of an error is a part of it and not its source. -/
def Error.source? (_ : Error) : Option Cause := none

def Failure.source? (failure : Failure) : Option Cause := some (.error failure.error)

def IoError.source? : IoError → Option Cause
  | .plain _ | .message .. => none
  | .around _ error => error.source?

def Cause.source? : Cause → Option Cause
  | .message _ => none
  | .error wrapped => wrapped.source?
  | .kind wrapped => wrapped.source?
  | .io wrapped => wrapped.source?
  | .failure wrapped => wrapped.source?

theorem Cause.source?_eq_some_iff {cause source : Cause} :
    cause.source? = some source ↔
      ∃ failure, cause = .failure failure ∧ source = .error failure.error := by
  constructor
  · intro named
    cases cause with
    | message => cases named
    | error => cases named
    | kind wrapped => cases wrapped <;> cases named
    | io wrapped => cases wrapped <;> cases named
    | failure failure => exact ⟨failure, rfl, (Option.some.inj named).symm⟩
  · rintro ⟨failure, rfl, rfl⟩
    rfl

theorem Cause.source?_source? {cause source : Cause} (named : cause.source? = some source) :
    source.source? = none := by
  obtain ⟨failure, -, rfl⟩ := source?_eq_some_iff.1 named
  rfl

end Preconnect
