/-
Roster.Settings.Source — where the listening address is configured.

A file named `configuration`, in one of four formats, gives settings by name. The
variables that start with `APP__`, in letters of any case, go on top of it: two
underscores in the rest of a name lead one table down.
-/
import Roster.Settings.EnvFile
import Roster.Settings.Ini
import Roster.Settings.Listen
import Roster.Settings.Number
import Roster.Settings.Toml
import Roster.Settings.Yaml
import Roster.Text.Lowercase

namespace Roster.Settings

open Net (Address)

/-- What stood where another kind of setting was expected. -/
inductive Unexpected where
  | nothing
  | bool (b : Bool)
  | whole (n : Int)
  /-- A natural number beyond the range asked for. -/
  | natural (n : Nat)
  | real (text : String)
  | text (s : String)
  | list
  | table
  deriving DecidableEq, Repr

namespace Unexpected

def describe : Unexpected → String
  | nothing => "unit value"
  | bool b => "boolean `" ++ (if b then "true" else "false") ++ "`"
  | whole n => "64-bit integer `" ++ Digits.intText n ++ "`"
  | natural n => "64-bit unsigned integer `" ++ Digits.natText n ++ "`"
  | real t => "floating point `" ++ t ++ "`"
  | text s => "string " ++ Text.quoted s
  | list => "sequence"
  | table => "map"

end Unexpected

/-- Why the sources give no listening address. -/
inductive SourceFlaw where
  | invalidType (found : Unexpected) (expected : String) (key : Option String)
    (origin : Option String)
  /-- The value of a setting breaks a rule of its own. -/
  | refused (reason : String)
  /-- A file cannot be read. -/
  | unreadable (cause file : String)
  deriving DecidableEq, Repr

namespace SourceFlaw

def message : SourceFlaw → String
  | invalidType found expected key origin =>
    "invalid type: " ++ found.describe ++ ", expected " ++ expected ++
      (key.map fun k => " for key `" ++ k ++ "`").getD "" ++
      (origin.map fun o => " in " ++ o).getD ""
  | refused reason => reason
  | unreadable cause file => cause ++ " in " ++ file

end SourceFlaw

/-! ## Files -/

namespace Scalar

def ofNumber : Json.Number → Scalar
  | .nat n =>
    if n < 0x8000000000000000 then whole n
    else real false ((Decimal.Binary64.ofNat? n).getD Decimal.Binary64.zero)
  | .negative n => whole (-n)
  | .float minus x => real minus x

def unexpected : Scalar → Unexpected
  | nothing => .nothing
  | bool b => .bool b
  | whole n => .whole n
  | real minus x => .real ((if minus then "-" else "") ++ x.text)
  | text s => .text s

end Scalar

namespace Setting

mutual

/-- A JSON value as a setting; the last field of a name wins. -/
def ofJson (origin : String) : Json.Value → Setting
  | .null => .scalar .nothing origin
  | .bool b => .scalar (.bool b) origin
  | .number n => .scalar (.ofNumber n) origin
  | .text s => .scalar (.text s) origin
  | .list _ => .list (some origin)
  | .object fs => .table (fieldsOfJson origin [] fs)

def fieldsOfJson (origin : String) (acc : List (String × Setting)) :
    List (String × Json.Value) → List (String × Setting)
  | [] => acc
  | (k, v) :: rest => fieldsOfJson origin (putField k (ofJson origin v) acc) rest

end

/-- What a setting is, for a complaint, and the source it is from. -/
def unexpected : Setting → Unexpected × Option String
  | scalar v origin => (v.unexpected, some origin)
  | list origin => (.list, origin)
  | table _ => (.table, none)

end Setting

/-- A reader of files, given the name and the text of one. -/
abbrev FileReader := String → String → Except SourceFlaw (List (String × Setting))

/-- The settings that a whole file is, which must be a table. -/
def wholeTable (file : String) (s : Setting) : Except SourceFlaw (List (String × Setting)) :=
  match s with
  | .table fs => .ok fs
  | other =>
    let flaw := SourceFlaw.invalidType other.unexpected.1 "a map" none (some file)
    .error (.unreadable flaw.message file)

/-- Names the file of which a reader complains. -/
def inFile {α : Type} (file : String) (r : Except String α) : Except SourceFlaw α :=
  r.mapError fun cause => .unreadable cause file

def readJson : FileReader := fun file text => do
  let bytes := Json.Reader.bytesOf text
  let value := (Json.Reader.value Json.Reader.depthLimit).run bytes
  wholeTable file (.ofJson file (← inFile file (value.mapError fun e => e.placed bytes)))

def readYaml : FileReader := fun file text => do
  wholeTable file (← inFile file (Yaml.read file text))

/--
The formats of configuration files by the endings of their names. Files in RON and
JSON5 are not among them. Of several files any one may count as far as is promised;
here it is the first in this order.
-/
def formats : List (String × FileReader) :=
  [("toml", fun file text => inFile file (Toml.read file text)), ("json", readJson),
    ("yaml", readYaml), ("yml", readYaml),
    ("ini", fun file text => inFile file (Ini.read file text))]

/-- What a configuration file is called, before its ending. -/
def fileName : String := "configuration"

/--
The settings of the first configuration file that is there. A file without an
ending is in no format, and hides the others.
-/
def ofFiles (files : List (String × String)) : Except SourceFlaw (List (String × Setting)) :=
  if (files.lookup fileName).isSome then .ok []
  else
    let found := formats.findSome? fun (ending, read) =>
      let name := fileName ++ "." ++ ending
      (files.lookup name).map (read name)
    found.getD (.ok [])

/-! ## The environment -/

/-- What the names of these variables start with, in small letters. -/
def variableStart : String := "app__"

def environmentOrigin : String := "the environment"

/-- Two underscores as a point, from the left. -/
def pointed : List Char → List Char
  | '_' :: '_' :: rest => '.' :: pointed rest
  | c :: rest => c :: pointed rest
  | [] => []

/-- The name of the setting that a variable gives. -/
def settingName? (variableName : String) : Option String :=
  let name := (Text.lowercase variableName).toList
  if variableStart.toList.isPrefixOf name then
    some (String.ofList (pointed (name.drop variableStart.length)))
  else none

def ofEnvironment (env : Variables) : List (String × Setting) :=
  env.filterMap fun (name, value) =>
    (settingName? name).map fun k => (k, .scalar (.text value) environmentOrigin)

/-! ## The listening address -/

/-- A number from its text, which may also be a truth value in words. -/
def portOfText? (s : String) : Option Nat :=
  let word := Text.lowercase s
  if ["true", "on", "yes"].contains word then some 1
  else if ["false", "off", "no"].contains word then some 0
  else (NumberKind.nat64.parse s).toOption.map Int.toNat

/-- A number rounded to the nearest whole one, half away from zero, within 64 bits. -/
def rounded (minus : Bool) (x : Decimal.Binary64) : Nat :=
  let (num, den) := x.ratio
  if minus then 0 else min ((2 * num + den) / (2 * den)) 0xFFFFFFFFFFFFFFFF

def portOf (s : Setting) : Except SourceFlaw Nat := do
  let (found, origin) := s.unexpected
  let wrong {α : Type} (expected : String) : Except SourceFlaw α :=
    .error (.invalidType found expected (some "port") origin)
  let n : Nat ←
    match s with
    | .scalar (.bool b) _ => pure (if b then 1 else 0)
    | .scalar (.whole n) _ =>
      if 0 ≤ n then pure n.toNat else wrong "an unsigned 64 bit or less integer"
    | .scalar (.real minus x) _ => pure (rounded minus x)
    | .scalar (.text t) _ =>
      match portOfText? t with
      | some n => pure n
      | none => wrong "an integer"
    | _ => wrong "an integer"
  if n < 0x10000 then return n
  else .error (.invalidType (.natural n) "an unsigned 16 bit integer" (some "port") none)

def hostOf (s : Setting) : Except SourceFlaw Address :=
  let (found, origin) := s.unexpected
  match s with
  | .scalar .nothing _ | .list _ | .table _ =>
    .error (.invalidType found "a string" (some "host") origin)
  | .scalar (.text t) _ =>
    match Address.ofText? t with
    | some a => .ok a
    | none => .error (.refused Listen.hostFlaw)
  | .scalar _ _ => .error (.refused Listen.hostFlaw)

/-- The listening address of a table of settings. -/
def Listen.ofSettings (fs : List (String × Setting)) : Except SourceFlaw Listen := do
  let port ← ((fs.lookup "port").map portOf).getD (.ok defaultPort)
  let host ← ((fs.lookup "host").map hostOf).getD (.ok defaultHost)
  return ⟨port, host⟩

/-- The listening address that the files and the environment give. -/
def Listen.load (files : List (String × String)) (env : Variables) :
    Except SourceFlaw Listen := do
  let file ← ofFiles files
  let settings := ((Setting.table []).overlay file).overlay (ofEnvironment env)
  Listen.ofSettings settings.fields

end Roster.Settings
