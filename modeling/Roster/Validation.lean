/-
Roster.Validation — rules for the fields of a request.

A rule either holds or gives a complaint. A report lists the fields that break
rules, in the order of the form, each with its complaints in the order of the
rules.
-/
import Roster.Digits
import Roster.EmailRule
import Roster.Text.Blank

namespace Roster

/-- What is wrong with a field. -/
structure Complaint where
  code : String
  message : String
  /-- The bounds that the rule has, by name. -/
  bounds : List (String × Nat)
  deriving DecidableEq, Repr

/-- A rule for a text. -/
abbrev Rule := String → Option Complaint

/-- The fields that break rules, with their complaints. -/
abbrev Report := List (String × List Complaint)

namespace Rule

/-- Length in characters, with a least and perhaps a greatest value. -/
def length (least : Nat) (greatest : Option Nat) (message : String) : Rule := fun s =>
  let n := s.length
  if least ≤ n ∧ greatest.all (n ≤ ·) then none
  else some ⟨"length", message, ("min", least) :: (greatest.map fun g => ("max", g)).toList⟩

def email : Rule := fun s =>
  if EmailRule.isEmail s then none else some ⟨"email", "Invalid email format", []⟩

/-- Something must remain without white space at the ends. -/
def notBlank : Rule := fun s =>
  if (Text.trimChars s.toList).isEmpty then some ⟨"blank", "Value must not be blank", []⟩ else none

/-- Names of workspaces are measured without white space at their ends, as they are kept. -/
def workspaceName : Rule := fun s =>
  let n := (Text.trimChars s.toList).length
  if 3 ≤ n ∧ n ≤ 50 then none
  else some ⟨"workspace_name", "Name must be between 3 and 50 characters", []⟩

end Rule

namespace Report

/-- The complaints about one field. -/
def check (field : String) (rules : List Rule) (value : String) : Report :=
  match rules.filterMap fun rule => rule value with
  | [] => []
  | complaints => [(field, complaints)]

/-- A report in writing: a line for each field. -/
def text (r : Report) : String :=
  "\n".intercalate (r.map fun (field, complaints) =>
    field ++ ": " ++ ", ".intercalate (complaints.map Complaint.message))

end Report

end Roster
