/-
Roster.Settings.DatabaseAddress — what makes an address of a database.

The address is a URL whose user, password and path are text once their percent
escapes are replaced. Its query may set more: how connections are secured, how
many statements are kept, and another host or port. Parts are judged in that
order, and entries of the query from left to right.
-/
import Roster.Net.Url
import Roster.Settings.Listen
import Roster.Settings.Number
import Roster.Store.Error
import Roster.Text.Quoted

namespace Roster.Settings

open Roster.Http (bytesOf percentDecode queryPairs)

namespace DatabaseAddress

/-- Why a text addresses no database. -/
inductive Flaw where
  | url (f : Net.Url.Flaw)
  | text (f : Text.Utf8.Flaw)
  | security (value : String)
  | number (f : NumberFlaw)
  | host
  deriving DecidableEq, Repr

def Flaw.message : Flaw → String
  | url f => f.message
  | text f => f.message
  | security value =>
    (Store.DatabaseFault.badAddress
      ("unknown value " ++ Text.quoted value ++ " for `ssl_mode`")).message
  | number f => f.message
  | host => Listen.hostFlaw

/-- Ways to secure connections. -/
def securityModes : List String :=
  ["disable", "allow", "prefer", "require", "verify-ca", "verify-full"]

/-- What is wrong with a part as text. -/
def textFlaw? (part : String) : Option Flaw :=
  (Text.Utf8.flaw? 0 (percentDecode (bytesOf part))).map .text

/-- What is wrong with a host: only one that is a path has to be text. -/
def hostFlaw? (host : String) : Option Flaw :=
  if (percentDecode (bytesOf host)).head? = some 0x2F then textFlaw? host else none

def numberFlaw? (kind : NumberKind) (value : String) : Option Flaw :=
  match kind.parse value with
  | .ok _ => none
  | .error f => some (.number f)

/-- What is wrong with an entry of the query; unknown names do not matter. -/
def entryFlaw? : String × String → Option Flaw
  | (name, value) =>
    match name with
    | "sslmode" | "ssl-mode" =>
      if securityModes.contains (String.ofList (value.toList.map Char.toLower)) then none
      else some (.security value)
    | "statement-cache-capacity" => numberFlaw? .nat64 value
    | "hostaddr" => if (Net.Address.ofText? value).isSome then none else some .host
    | "port" => numberFlaw? .nat16 value
    | _ => none

/-- The address, if it can be one of a database. -/
def parse (s : String) : Except Flaw Net.Url :=
  match Net.Url.parse s with
  | .error f => .error (.url f)
  | .ok u =>
    let path := (u.path.dropWhile (· == '/')).toString
    let flaws := hostFlaw? u.host :: [u.user, u.password, path].map textFlaw? ++
      (queryPairs u.query).map entryFlaw?
    match flaws.findSome? id with
    | some f => .error f
    | none => .ok u

end DatabaseAddress

end Roster.Settings
