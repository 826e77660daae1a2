/-
Roster.Settings.Listen — where the service listens.

A port and an address, each with a default: port 8080 on all interfaces of the
machine.
-/
import Roster.Json.Record
import Roster.Net.Address

namespace Roster.Settings

open Json (Reader Shape)
open Net (Address)

/-- Where the service listens. -/
structure Listen where
  port : Nat
  host : Address
  deriving DecidableEq, Repr

namespace Listen

def defaultPort : Nat := 8080

def defaultHost : Address := .v4 0 0 0 0

/-- Address and port as one text. -/
def text (l : Listen) : String := l.host.socketText l.port

/-- Why a text is no internet address. -/
def hostFlaw : String := "invalid IP address syntax"

/-- Reads an internet address. -/
def hostReader : Reader Address :=
  Reader.parsed "IP address" fun s =>
    match Address.ofText? s with
    | some a => .ok a
    | none => .error hostFlaw

def shape : Shape (Option Nat × Option Address) Listen where
  title := "struct Config"
  start := (none, none)
  fields :=
    [.defaulted "port" Prod.fst (fun s x => (some x, s.2)) Reader.nat16,
      .defaulted "host" Prod.snd (fun s x => (s.1, some x)) hostReader]
  whole s := .ok ⟨s.1.getD defaultPort, s.2.getD defaultHost⟩

end Listen

end Roster.Settings
