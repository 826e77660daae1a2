/-
Roster.World — the surroundings in which operations run one after another.

The published tables are what every new unit of work starts from; the working
copy belongs to the unit of work that is open. Identifiers, salts and clock
readings come from streams. Planned faults make single calls fail before they
do anything; a failing `commit` loses the unit of work.
-/
import Roster.Program

namespace Roster

open Store (State)

/-- Streams of identifiers, salts and clock readings, each with its next place. -/
structure Supply where
  id : Nat → Uuid
  salt : Nat → List UInt8
  clock : Nat → Reading
  nextId : Nat
  nextSalt : Nat
  nextReading : Nat

namespace Supply

def drawId (s : Supply) : Uuid × Supply := (s.id s.nextId, { s with nextId := s.nextId + 1 })

def drawSalt (s : Supply) : List UInt8 × Supply :=
  (s.salt s.nextSalt, { s with nextSalt := s.nextSalt + 1 })

def readClock (s : Supply) : Reading × Supply :=
  (s.clock s.nextReading, { s with nextReading := s.nextReading + 1 })

end Supply

/-- A failure planned for the `skip + 1`-th call of a name. -/
structure Fault where
  call : String
  skip : Nat
  error : Store.Error
  deriving DecidableEq, Repr

namespace Fault

/-- The plans that remain after a call of the given name, and the failure due at it. -/
def due (name : String) : List Fault → Option Store.Error × List Fault
  | [] => (none, [])
  | f :: rest =>
    if f.call = name then
      match f.skip with
      | 0 => (some f.error, rest)
      | n + 1 =>
        let (e, rest) := due name rest
        (e, { f with skip := n } :: rest)
    else
      let (e, rest) := due name rest
      (e, f :: rest)

end Fault

/-- The state of the surroundings. -/
structure World where
  published : State
  /-- The copy that the open unit of work reads and writes. -/
  working : Option State
  supply : Supply
  faults : List Fault

namespace World

def drawId (w : World) : Uuid × World :=
  let (id, supply) := w.supply.drawId
  (id, { w with supply })

def drawSalt (w : World) : List UInt8 × World :=
  let (salt, supply) := w.supply.drawSalt
  (salt, { w with supply })

def readClock (w : World) : Reading × World :=
  let (now, supply) := w.supply.readClock
  (now, { w with supply })

/-- A call that reads the working copy. -/
def reads {β : Type} (w : World) (read : State → β) : Except Store.Error β × World :=
  match w.working with
  | some s => (.ok (read s), w)
  | none => (.error (.backend "no unit of work is open"), w)

/-- A call that writes the working copy, or leaves it alone if it fails. -/
def writes {β : Type} (w : World) (write : State → Except Store.Error (β × State)) :
    Except Store.Error β × World :=
  match w.working with
  | some s =>
    match write s with
    | .ok (b, s) => (.ok b, { w with working := some s })
    | .error e => (.error e, w)
  | none => (.error (.backend "no unit of work is open"), w)

/-- Carries out a call that no fault prevents. -/
def perform (w : World) : (call : Call) → Except Store.Error call.Result × World
  | .healthCheck => (.ok (), w)
  | .begin => (.ok (), { w with working := some w.published })
  | .findUserByEmail email => w.reads fun s => s.userByEmail? email
  | .findUser id => w.reads fun s => s.user? id
  | .saveUser u => w.writes fun s => s.saveUser u
  | .findWorkspace id filter => w.reads fun s => s.workspace? id filter
  | .saveWorkspace x => w.writes fun s => s.saveWorkspace x
  | .findMembership user workspace filter => w.reads fun s => s.membership? user workspace filter
  | .saveMembership m => w.writes fun s => s.saveMembership m
  | .countMembers workspace => w.reads fun s => s.memberCount workspace
  | .listDetails user only => w.reads fun s => s.detailsFor user only
  | .commit =>
    match w.working with
    | some s => (.ok (), { w with published := s, working := none })
    | none => (.error (.backend "no unit of work is open"), w)

/-- Answers a call on the store. -/
def call (w : World) (c : Call) : Except Store.Error c.Result × World :=
  let (failure, faults) := Fault.due c.name w.faults
  let w := { w with faults }
  match failure with
  | none => w.perform c
  | some e => (.error e, match c with
    | .commit => { w with working := none }
    | _ => w)

/-- Answers a request. -/
def answer (w : World) : (r : Request) → r.Answer × World
  | .store c => w.call c
  | .drawId => w.drawId
  | .drawSalt => w.drawSalt
  | .readClock => w.readClock

/-- Discards the unit of work that is still open. -/
def close (w : World) : World := { w with working := none }

end World

namespace Program

variable {α : Type}

/-- Runs an operation to its end; a unit of work may then still be open. -/
def runOpen : Program α → World → α × World
  | done a, w => (a, w)
  | ask r next, w =>
    let (answer, w) := w.answer r
    (next answer).runOpen w

/-- Runs an operation alone; what it has not committed is lost. -/
def run (p : Program α) (w : World) : α × World :=
  let (a, w) := p.runOpen w
  (a, w.close)

end Program

end Roster
