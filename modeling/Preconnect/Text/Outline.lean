/-!
The text of a structured value: named records, applications and leaves, either in one line or
with every part on a line of its own.
-/
namespace Preconnect.Text

inductive Outline
  | leaf (text : String)
  | record (name : String) (fields : List (String × Outline))
  | apply (name : String) (arguments : List Outline)

namespace Outline

def optional : Option Outline → Outline
  | none => leaf "None"
  | some value => apply "Some" [value]

mutual

def inline : Outline → String
  | leaf text => text
  | record name fields => name ++ " \x7b " ++ ", ".intercalate (inlineFields fields) ++ " \x7d"
  | apply name arguments => name ++ "(" ++ ", ".intercalate (inlineAll arguments) ++ ")"

def inlineFields : List (String × Outline) → List String
  | [] => []
  | (field, value) :: rest => (field ++ ": " ++ value.inline) :: inlineFields rest

def inlineAll : List Outline → List String
  | [] => []
  | value :: rest => value.inline :: inlineAll rest

end

def margin (depth : Nat) : String :=
  String.ofList (List.replicate (4 * depth) ' ')

mutual

/-- The value over several lines; it begins on a line that is `depth` levels deep. -/
def indented (depth : Nat) : Outline → String
  | leaf text => text
  | record name fields =>
    name ++ " \x7b\n" ++ String.join (indentedFields (depth + 1) fields) ++ margin depth ++ "\x7d"
  | apply name arguments =>
    name ++ "(\n" ++ String.join (indentedAll (depth + 1) arguments) ++ margin depth ++ ")"

def indentedFields (depth : Nat) : List (String × Outline) → List String
  | [] => []
  | (field, value) :: rest =>
    (margin depth ++ field ++ ": " ++ value.indented depth ++ ",\n") :: indentedFields depth rest

def indentedAll (depth : Nat) : List Outline → List String
  | [] => []
  | value :: rest => (margin depth ++ value.indented depth ++ ",\n") :: indentedAll depth rest

end

end Outline

end Preconnect.Text
