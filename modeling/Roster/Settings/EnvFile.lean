/-
Roster.Settings.EnvFile — files of environment variables.

A line is `NAME=value`, perhaps after the word `export`. Values may be quoted:
single quotes keep everything as it stands, double quotes allow escapes and
span lines. `$NAME` stands for a variable of the environment or for one that an
earlier line has set. A number sign after a blank starts a comment.

The file never changes a variable that is set already, and the first line that
breaks the rules ends the reading: what stands before it counts.
-/
import Roster.Text.Blank

namespace Roster.Settings

/-- Variables and their values. -/
abbrev Variables := List (String × String)

namespace EnvFile

open Text (isBlank)

/-! ## Lines -/

/-- Where the end of a line is judged from. -/
inductive Mode where
  | plain
  | blank
  | escape
  | single
  | singleEscape
  | double
  | doubleEscape
  deriving DecidableEq, Repr

namespace Mode

/-- Outside quotes, what a character leads to that is no blank. -/
def outside (c : Char) : Mode :=
  if c = '\\' then escape
  else if c = '"' then double
  else if c = '\'' then single
  else plain

def next (mode : Mode) (c : Char) : Mode :=
  match mode with
  | plain => if isBlank c ∧ c ≠ '\n' ∧ c ≠ '\r' then blank else outside c
  | blank => outside c
  | escape => plain
  | double => if c = '\\' then doubleEscape else if c = '"' then plain else double
  | doubleEscape => double
  | single => if c = '\\' then singleEscape else if c = '\'' then plain else single
  | singleEscape => single

end Mode

/-- The text up to the end of the line, included, and the rest. -/
def splitLine : List Char → List Char × List Char
  | [] => ([], [])
  | c :: rest =>
    if c = '\n' then ([c], rest)
    else
      let (line, after) := splitLine rest
      (c :: line, after)

/-- What a line looks like from its end: the mode after it, or the part before its comment. -/
def scan (mode : Mode) (seen : List Char) : List Char → Except (List Char) Mode
  | [] => .ok mode
  | c :: rest =>
    if mode = .blank ∧ c = '#' then .error seen.reverse
    else scan (mode.next c) (c :: seen) rest

/-- A line without its end. -/
def withoutEnd (line : List Char) : List Char :=
  match line.reverse with
  | '\n' :: '\r' :: front | '\n' :: front => front.reverse
  | _ => line

/--
The first logical line of a text and the rest; `none` if the text is over. A
logical line takes in further lines while a quote is open. It is no line at all
(`some none`) if the text ends inside it.
-/
def logicalLine (held : List Char) (mode : Mode) (text : List Char) :
    Nat → Option (Option (List Char) × List Char)
  | 0 => none
  | fuel + 1 =>
    let (line, rest) := splitLine text
    if line.isEmpty then if mode = .plain then none else some (none, [])
    else if ((held ++ line).dropWhile isBlank).head? = some '#' then some (some [], rest)
    else
      match scan mode [] line with
      | .error before => some (some (held ++ before), rest)
      | .ok .plain => some (some (withoutEnd (held ++ line)), rest)
      | .ok mode => logicalLine (held ++ line) mode rest fuel

/-! ## Values -/

/-- How far a value has been read. -/
structure Value where
  /-- What it stands for so far, last character first. -/
  out : List Char := []
  single : Bool := false
  double : Bool := false
  escaped : Bool := false
  /-- Only blanks and a comment may follow. -/
  ended : Bool := false
  /-- The name of a variable that is being read, last character first. -/
  name : Option (List Char) := none
  /-- Whether that name stands in braces. -/
  braced : Bool := false

/-- Whether a character may stand in the name of a variable that is referred to. -/
def isNameChar (c : Char) : Bool := c.isAlphanum

/-- The character that an escape stands for. -/
def escape? (c : Char) : Option Char :=
  if c = 'n' then some '\n'
  else if c = '\\' ∨ c = '\'' ∨ c = '"' ∨ c = '$' ∨ c = ' ' then some c
  else none

namespace Value

/-- Puts in the value of the variable whose name has been read. -/
def resolve (known : Variables) (v : Value) : Value :=
  match v.name with
  | none => v
  | some name =>
    let value := (known.lookup (String.ofList name.reverse)).getD ""
    { v with out := value.toList.reverse ++ v.out, name := none, braced := false }

/-- Takes in a character of a name, or the one after it. -/
def named (known : Variables) (v : Value) (name : List Char) (c : Char) : Value :=
  if isNameChar c then { v with name := some (c :: name) }
  else if v.braced then
    if c = '\x7d' then v.resolve known else { v with name := some (c :: name) }
  else if c = '\x7b' ∧ name = [] then { v with braced := true }
  else
    let v := v.resolve known
    if c = '$' then { v with name := some [] } else { v with out := c :: v.out }

/-- Takes in a character; `none` if it breaks the rules. -/
def step (known : Variables) (v : Value) (c : Char) : Option Value :=
  let kept : Value := { v with out := c :: v.out }
  if v.ended then if c = ' ' ∨ c = '\t' then some v else none
  else if v.escaped then (escape? c).map fun x => { v with out := x :: v.out, escaped := false }
  else if v.single then some (if c = '\'' then { v with single := false } else kept)
  else
    match v.name with
    | some name => some (v.named known name c)
    | none =>
      if c = '$' then some { v with name := some [] }
      else if c = '\\' then some { v with escaped := true }
      else if v.double then some (if c = '"' then { v with double := false } else kept)
      else if c = '\'' then some { v with single := true }
      else if c = '"' then some { v with double := true }
      else if c = ' ' ∨ c = '\t' then some { v with ended := true }
      else some kept

/-- Reads the rest of a value. -/
def read (known : Variables) (v : Value) : List Char → Option (List Char)
  | [] =>
    if v.braced ∨ v.single ∨ v.double then none else some (v.resolve known).out.reverse
  | c :: rest =>
    if v.ended ∧ c = '#' then read known v []
    else
      match v.step known c with
      | none => none
      | some v => read known v rest

end Value

/-! ## Entries -/

def isKeyStart (c : Char) : Bool := c.isAlpha || c == '_'

def isKeyChar (c : Char) : Bool := c.isAlphanum || c == '_' || c == '.'

/-- A name and what follows it and its blanks. -/
def key (cs : List Char) : Option (String × List Char) :=
  if cs.head?.any isKeyStart then
    some (String.ofList (cs.takeWhile isKeyChar), (cs.dropWhile isKeyChar).dropWhile isBlank)
  else none

/-- What follows an equals sign. -/
def afterEquals : List Char → Option (List Char)
  | '=' :: rest => some rest
  | _ => none

/-- Name and value of a line that holds an entry; `some none` for a line without one. -/
def entry (known : Variables) (line : List Char) : Option (Option (String × String)) := do
  let cs := (Text.trimBack line).dropWhile isBlank
  if cs.isEmpty || cs.head? == some '#' then return none
  let (name, rest) ← key cs
  let (name, rest) ←
    match afterEquals rest with
    | some rest => some (name, rest)
    | none =>
      if name == "export" then do
        let (name, rest) ← key rest
        pure (name, ← afterEquals rest)
      else none
  let rest := rest.dropWhile isBlank
  if rest.isEmpty || rest.head? == some '#' then return some (name, "")
  return some (name, String.ofList (← ({ } : Value).read known rest))

/-- Sets a variable unless it is set. -/
def setNew (env : Variables) (name value : String) : Variables :=
  if (env.lookup name).isSome then env else env ++ [(name, value)]

/-- Goes through the lines; a reference means a variable as the entries before it have left it. -/
def loadFrom (env : Variables) (text : List Char) : Nat → Variables
  | 0 => env
  | fuel + 1 =>
    match logicalLine [] .plain text (text.length + 1) with
    | none | some (none, _) => env
    | some (some line, rest) =>
      match entry env line with
      | none => env
      | some none => loadFrom env rest fuel
      | some (some (name, value)) => loadFrom (setNew env name value) rest fuel

/-- The variables after a file has been read, without the mark that may stand at its start. -/
def load (env : Variables) (text : String) : Variables :=
  let cs := text.toList
  let cs := if cs.head? = some '\uFEFF' then cs.drop 1 else cs
  loadFrom env cs (cs.length + 1)

end EnvFile

end Roster.Settings
