import Preconnect.Decimal.Text
import Preconnect.Json.Found
import Preconnect.Request

/-!
A request in the making. Values come in one field at a time, whatever form the text has, so the
rules for what a field may hold and the reasons for refusing it stand here once.
-/
namespace Preconnect.Request

open Json (Found Number)

inductive Field
  | target
  | workers
  | failFast
  | poolName
  deriving DecidableEq

namespace Field

def key : Field → String
  | target => "targetCount"
  | workers => "workerCount"
  | failFast => "failFast"
  | poolName => "poolName"

def all : List Field := [target, workers, failFast, poolName]

def ofKey? (key : String) : Option Field :=
  all.find? (·.key == key)

end Field

inductive Expected
  | count
  | boolean
  | text
  | request
  deriving DecidableEq

inductive Rejection
  | duplicate (field : Field)
  | missing (field : Field)
  | invalidType (found : Found) (expected : Expected)
  /-- An integer that is no count. -/
  | invalidCount (value : Int)
  /-- An array that ends before its second element. -/
  | invalidLength (length : Nat)
  deriving DecidableEq

structure Draft where
  target : Option UInt32 := none
  workers : Option UInt32 := none
  failFast : Option Bool := none
  poolName : Option (Option String) := none

def countOf : Found → Except Rejection UInt32
  | .number (.integer n) =>
    if 0 ≤ n ∧ n < UInt32.size then .ok (UInt32.ofNat n.toNat) else .error (.invalidCount n)
  | other => .error (.invalidType other .count)

def flagOf : Found → Except Rejection Bool
  | .bool value => .ok value
  | other => .error (.invalidType other .boolean)

def nameOf : Found → Except Rejection (Option String)
  | .null => .ok none
  | .text name => .ok (some name)
  | other => .error (.invalidType other .text)

namespace Draft

def has (draft : Draft) : Field → Bool
  | .target => draft.target.isSome
  | .workers => draft.workers.isSome
  | .failFast => draft.failFast.isSome
  | .poolName => draft.poolName.isSome

def put (draft : Draft) (field : Field) (found : Found) : Except Rejection Draft :=
  match field with
  | .target => (countOf found).map fun n => { draft with target := some n }
  | .workers => (countOf found).map fun n => { draft with workers := some n }
  | .failFast => (flagOf found).map fun b => { draft with failFast := some b }
  | .poolName => (nameOf found).map fun name => { draft with poolName := some name }

def finish (draft : Draft) : Except Rejection Request :=
  match draft.target, draft.workers with
  | none, _ => .error (.missing .target)
  | some _, none => .error (.missing .workers)
  | some target, some workers =>
    .ok ⟨target, workers, draft.failFast.getD true, draft.poolName.getD none, none⟩

end Draft

def describe : Found → String
  | .null => "null"
  | .bool value => "boolean `" ++ (if value then "true" else "false") ++ "`"
  | .number (.integer n) => "integer `" ++ toString n ++ "`"
  | .number (.binary negative magnitude) =>
    "floating point `" ++ Decimal.signedText negative magnitude ++ "`"
  | .text value => "string " ++ Text.quoted value
  | .sequence => "sequence"
  | .map => "map"

def Expected.name : Expected → String
  | count => "u32"
  | boolean => "a boolean"
  | text => "a string"
  | request => "struct WarmupRequest"

def Rejection.message : Rejection → String
  | duplicate field => "duplicate field `" ++ field.key ++ "`"
  | missing field => "missing field `" ++ field.key ++ "`"
  | invalidType found expected =>
    "invalid type: " ++ describe found ++ ", expected " ++ expected.name
  | invalidCount value =>
    "invalid value: integer `" ++ toString value ++ "`, expected " ++ Expected.count.name
  | invalidLength length =>
    "invalid length " ++ toString length ++ ", expected " ++ Expected.request.name ++
      " with 4 elements"

end Preconnect.Request
