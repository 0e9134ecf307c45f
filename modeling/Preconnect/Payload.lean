/-!
What a panic carries. Only a text can be shown; everything else is a value that nobody can read.
-/
namespace Preconnect

inductive Payload
  | text (message : String)
  | unreadable
  deriving DecidableEq, Inhabited

def Payload.text? : Payload → Option String
  | .text message => some message
  | .unreadable => none

end Preconnect
