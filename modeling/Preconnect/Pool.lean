import Preconnect.Outcome

/-!
Pools, which either take a connection over or close it. A pool may panic in a call, after it has
done what was asked.
-/
namespace Preconnect

inductive PoolCall
  | accept (connection : Connection)
  | close (connection : Connection)
  deriving DecidableEq

def PoolCall.connection : PoolCall → Connection
  | accept connection | close connection => connection

/-- A pool that counts its calls and may panic in one of each kind, or a queue of connections. -/
inductive Pool
  | recording (accepted closed : Nat) (panicOnAccept panicOnClose : Option Nat)
  | queue (connections : Array Connection)
  deriving DecidableEq

structure Reply where
  panic? : Option Payload := none
  /-- The connection does not outlive the call. -/
  drops : Bool := false

namespace Pool

def fresh : Pool := recording 0 0 none none

def call : Pool → PoolCall → Pool × Reply
  | recording accepted closed onAccept onClose, .accept _ =>
    (recording (accepted + 1) closed onAccept onClose,
      { panic? := if onAccept = some (accepted + 1) then some (.text "pool: accept") else none })
  | recording accepted closed onAccept onClose, .close _ =>
    (recording accepted (closed + 1) onAccept onClose,
      { panic? := if onClose = some (closed + 1) then some (.text "pool: close") else none })
  | queue connections, .accept connection => (queue (connections.push connection), {})
  | queue connections, .close _ => (queue connections, { drops := true })

end Pool

end Preconnect
