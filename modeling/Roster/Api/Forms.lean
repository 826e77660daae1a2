/-
Roster.Api.Forms — what clients send.

Each form is a JSON object, or a list of its fields in order. After it has been
read its fields are checked; what they hold is kept as it was sent.
-/
import Roster.Json.Scalars
import Roster.Validation

namespace Roster.Api

open Json (Reader Shape Field need Value)

/-- Reads a field of text. -/
def anyText : Reader String := Reader.text "a string"

/-- A record with one text. -/
def textShape {α : Type} (title field : String) (make : String → α) :
    Shape (Option String) α where
  title
  start := none
  fields := [.required field id (fun _ x => some x) anyText]
  whole s := return make (← need field s)

/-- A record with two fields. -/
def pairShape {α β γ : Type} (title first second : String) (readFirst : Reader α)
    (readSecond : Reader β) (make : α → β → γ) : Shape (Option α × Option β) γ where
  title
  start := (none, none)
  fields :=
    [.required first Prod.fst (fun s x => (some x, s.2)) readFirst,
      .required second Prod.snd (fun s x => (s.1, some x)) readSecond]
  whole s := return make (← need first s.1) (← need second s.2)

/-- A kind of form: how it is read, what may be wrong with it, and how it is written. -/
class Form (α : Type) where
  reader : Reader α
  report : α → Report
  toJson : α → Value

/-! ## Accounts -/

/-- Asks for an account. -/
structure Signup where
  name : String
  email : String
  password : String
  deriving DecidableEq, Repr

namespace Signup

def shape : Shape (Option String × Option String × Option String) Signup where
  title := "struct SignupRequest"
  start := (none, none, none)
  fields :=
    [.required "name" Prod.fst (fun s x => (some x, s.2)) anyText,
      .required "email" (fun s => s.2.1) (fun s x => (s.1, some x, s.2.2)) anyText,
      .required "password" (fun s => s.2.2) (fun s x => (s.1, s.2.1, some x)) anyText]
  whole s := return ⟨← need "name" s.1, ← need "email" s.2.1, ← need "password" s.2.2⟩

end Signup

/-- The rule that a password is not empty. -/
def passwordRule : Rule := .length 1 none "Password is required"

instance : Form Signup where
  reader := Signup.shape.reader
  report f :=
    Report.check "name" [.length 1 (some 100) "Name is required", .notBlank] f.name ++
      Report.check "email" [.email] f.email ++ Report.check "password" [passwordRule] f.password
  toJson f :=
    .object [("name", .text f.name), ("email", .text f.email), ("password", .text f.password)]

/-- Asks for a session. -/
structure Login where
  email : String
  password : String
  deriving DecidableEq, Repr

instance : Form Login where
  reader := (pairShape "struct LoginRequest" "email" "password" anyText anyText Login.mk).reader
  report f :=
    Report.check "email" [.email] f.email ++ Report.check "password" [passwordRule] f.password
  toJson f := .object [("email", .text f.email), ("password", .text f.password)]

/-- Asks for a new pair of tokens. -/
structure Renewal where
  token : String
  deriving DecidableEq, Repr

instance : Form Renewal where
  reader := (textShape "struct RefreshRequest" "refresh_token" Renewal.mk).reader
  report f :=
    Report.check "refresh_token" [.length 1 none "Refresh token is required"] f.token
  toJson f := .object [("refresh_token", .text f.token)]

/-! ## Workspaces -/

/-- Names a user by address, and a rank for them. -/
structure MemberRole where
  email : String
  role : Role
  deriving DecidableEq, Repr

instance : Form MemberRole where
  reader :=
    (pairShape "struct MemberRoleRequest" "email" "role" anyText Reader.role MemberRole.mk).reader
  report f := Report.check "email" [.email] f.email
  toJson f := .object [("email", .text f.email), ("role", .text f.role.name)]

/-- Describes a workspace. -/
structure WorkspaceForm where
  name : String
  type : WorkspaceType
  deriving DecidableEq, Repr

instance : Form WorkspaceForm where
  reader :=
    (pairShape "struct WorkspaceRequest" "name" "workspace_type" anyText Reader.workspaceType
      WorkspaceForm.mk).reader
  report f := Report.check "name" [.workspaceName] f.name
  toJson f := .object [("name", .text f.name), ("workspace_type", .text f.type.name)]

/-! ## Queries -/

/-- Names the member to remove. -/
structure Removal where
  email : String
  deriving DecidableEq, Repr

def Removal.shape : Shape (Option String) Removal :=
  textShape "struct RemoveMemberQuery" "email" Removal.mk

/-- Names the next owner. -/
structure Transfer where
  email : String
  deriving DecidableEq, Repr

def Transfer.shape : Shape (Option String) Transfer :=
  textShape "struct TransferOwnershipQuery" "newOwnerEmail" Transfer.mk

end Roster.Api
