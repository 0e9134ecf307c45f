import Preconnect.Json.Skip
import Preconnect.Request.Draft

/-!
Reading a request from JSON. The text is read once from left to right, so the first problem met
decides. An object gives the fields by key and may hold anything under other keys; an array gives
them in order.
-/
namespace Preconnect.Request

open Json (Fault Found skipSpace)

/-- Why a text is not a request: it is not JSON, or its values are refused. -/
inductive ReadError
  | text (fault : Fault)
  | values (rejection : Rejection)
  deriving DecidableEq

def ofText {α : Type} : Except Fault α → Except ReadError α
  | .ok a => .ok a
  | .error fault => .error (.text fault)

def ofValues {α : Type} : Except Rejection α → Except ReadError α
  | .ok a => .ok a
  | .error rejection => .error (.values rejection)

def readField (draft : Draft) (field : Field) (s : List Char) :
    Except ReadError (Draft × List Char) := do
  let (found, rest) ← ofText (Json.found (skipSpace s))
  let draft ← ofValues (draft.put field found)
  return (draft, rest)

def nextElement (first : Bool) (s : List Char) : Except Fault (Bool × List Char) :=
  match skipSpace s with
  | [] => .error .truncated
  | ']' :: rest => .ok (false, rest)
  | c :: rest =>
    if first then .ok (true, c :: rest)
    else if c = ',' then
      match skipSpace rest with
      | [] => .error .truncated
      | ']' :: _ => .error .malformed
      | rest => .ok (true, rest)
    else .error .malformed

/-- Reads the elements of an array, of which `count` have been read, into the given fields. The
counts cannot be left out. -/
def readElements (draft : Draft) (count : Nat) (fields : List Field) (s : List Char) :
    Except ReadError (Draft × List Char) :=
  match fields with
  | [] =>
    match skipSpace s with
    | [] => .error (.text .truncated)
    | ']' :: rest => .ok (draft, rest)
    | _ :: _ => .error (.text .malformed)
  | field :: fields => do
    match ← ofText (nextElement (count == 0) s) with
    | (false, rest) =>
      if count < 2 then .error (.values (.invalidLength count)) else .ok (draft, rest)
    | (true, rest) =>
      let (draft, rest) ← readField draft field rest
      readElements draft (count + 1) fields rest

def readKey (s : List Char) : Except Fault (String × List Char) :=
  match s with
  | [] => .error .truncated
  | '"' :: rest => (Json.textBody .read rest).map fun (cs, rest) => (String.ofList cs, rest)
  | _ :: _ => .error .malformed

def nextKey (first : Bool) (s : List Char) : Except Fault (Option String × List Char) :=
  match skipSpace s with
  | [] => .error .truncated
  | c :: rest =>
    if c = '\x7d' then .ok (none, rest)
    else if first then (readKey (c :: rest)).map fun (key, rest) => (some key, rest)
    else if c = ',' then (readKey (skipSpace rest)).map fun (key, rest) => (some key, rest)
    else .error .malformed

def skipColon (s : List Char) : Except Fault (List Char) :=
  match skipSpace s with
  | [] => .error .truncated
  | ':' :: rest => .ok rest
  | _ :: _ => .error .malformed

/-- Reads a member from behind its key. A field that is set already is refused before its value is
looked at, and values under other keys do not matter. -/
def readMember (draft : Draft) (key : String) (s : List Char) :
    Except ReadError (Draft × List Char) :=
  match Field.ofKey? key with
  | none => do
    let rest ← ofText (skipColon s)
    let rest ← ofText (Json.skipValue rest)
    return (draft, rest)
  | some field =>
    if draft.has field then .error (.values (.duplicate field))
    else do
      let rest ← ofText (skipColon s)
      readField draft field rest

theorem ofText_eq_ok {α : Type} {x : Except Fault α} {a : α} (h : ofText x = .ok a) :
    x = .ok a := by
  cases x with
  | error => cases h
  | ok b => cases h; rfl

theorem bind_eq_ok {α β : Type} {x : Except ReadError α} {f : α → Except ReadError β}
    {b : β} (h : (x >>= f) = .ok b) : ∃ a, x = .ok a ∧ f a = .ok b := by
  cases x with
  | error => cases h
  | ok a => exact ⟨a, rfl, h⟩

theorem readField_length {draft draft' : Draft} {field : Field} {s rest : List Char}
    (h : readField draft field s = .ok (draft', rest)) : rest.length < s.length := by
  obtain ⟨⟨value, r⟩, hf, h⟩ := bind_eq_ok h
  obtain ⟨d, -, h⟩ := bind_eq_ok h
  cases h
  exact Nat.lt_of_lt_of_le (Json.found_length (ofText_eq_ok hf)) (Json.length_skipSpace_le s)

theorem readKey_length {s rest : List Char} {key : String} (h : readKey s = .ok (key, rest)) :
    rest.length < s.length := by
  unfold readKey at h
  split at h
  · contradiction
  · obtain ⟨⟨cs, r⟩, hr, he⟩ := Json.map_eq_ok h
    cases he
    exact Nat.lt_succ_of_lt (Json.textBody_length hr)
  · contradiction

theorem nextKey_length {first : Bool} {s rest : List Char} {key : Option String}
    (h : nextKey first s = .ok (key, rest)) : rest.length < s.length := by
  unfold nextKey at h
  split at h
  · contradiction
  · rename_i c r hs
    have hs' := Json.length_lt_of_skipSpace hs
    have := Json.length_skipSpace_le s
    rw [hs] at this
    split at h
    · cases h; exact hs'
    · split at h
      · obtain ⟨⟨key, r'⟩, hr, he⟩ := Json.map_eq_ok h
        cases he
        exact Nat.lt_of_lt_of_le (readKey_length hr) this
      · split at h
        · obtain ⟨⟨key, r'⟩, hr, he⟩ := Json.map_eq_ok h
          cases he
          have := readKey_length hr
          have := Json.length_skipSpace_le r
          omega
        · contradiction

theorem skipColon_length {s rest : List Char} (h : skipColon s = .ok rest) :
    rest.length < s.length := by
  unfold skipColon at h
  split at h
  · contradiction
  · rename_i hs
    cases h
    exact Json.length_lt_of_skipSpace hs
  · contradiction

theorem readMember_length {draft draft' : Draft} {key : String} {s rest : List Char}
    (h : readMember draft key s = .ok (draft', rest)) : rest.length < s.length := by
  unfold readMember at h
  split at h
  · obtain ⟨r, hc, h⟩ := bind_eq_ok h
    obtain ⟨r', hv, h⟩ := bind_eq_ok h
    cases h
    have := skipColon_length (ofText_eq_ok hc)
    have := Json.skipOn_length (ofText_eq_ok hv)
    omega
  · split at h
    · contradiction
    · obtain ⟨r, hc, h⟩ := bind_eq_ok h
      have := skipColon_length (ofText_eq_ok hc)
      have := readField_length h
      omega

def readMembers (draft : Draft) (first : Bool) (s : List Char) :
    Except ReadError (Draft × List Char) :=
  match _h : nextKey first s with
  | .error fault => .error (.text fault)
  | .ok (none, rest) => .ok (draft, rest)
  | .ok (some key, rest) =>
    match _hm : readMember draft key rest with
    | .error error => .error error
    | .ok (draft, rest) => readMembers draft false rest
termination_by s.length
decreasing_by
  have := nextKey_length _h
  have := readMember_length _hm
  omega

def readEnd (s : List Char) : Except Fault Unit :=
  if (skipSpace s).isEmpty then .ok () else .error .malformed

/-- Reads a text. What is wrong with the values is reported before what follows them. -/
def readChars (s : List Char) : Except ReadError Request :=
  match skipSpace s with
  | '[' :: rest => do
    let (draft, rest) ← readElements {} 0 Field.all rest
    let request ← ofValues draft.finish
    ofText (readEnd rest)
    return request
  | '{' :: rest => do
    let (draft, rest) ← readMembers {} true rest
    let request ← ofValues draft.finish
    ofText (readEnd rest)
    return request
  | rest => do
    let (found, _) ← ofText (Json.found rest)
    .error (.values (.invalidType found .request))

def read (text : String) : Except ReadError Request := readChars text.toList

end Preconnect.Request
