/-
Roster.Settings.Toml — settings written as TOML.

A document is a list of lines `key = value` under headers in brackets, with
comments after number signs. Keys are bare or quoted and may be dotted. Values
are strings in single or double quotes, whole numbers in four bases, decimal
fractions, the two truth values, lists and tables in braces. A fault names its
line and column and shows the line.
-/
import Roster.Settings.Tree
import Roster.Settings.Number

namespace Roster.Settings.Toml

open Roster.Decimal (Binary64)

/-- What is wrong, and how many characters are left where it is found. -/
structure Flaw where
  message : String
  left : Nat
  deriving DecidableEq, Repr

/-- A reader of the characters that remain. -/
abbrev Reader := StateT (List Char) (Except Flaw)

namespace Reader

variable {α : Type}

def fail (message : String) : Reader α := fun cs => .error ⟨message, cs.length⟩

def peek : Reader (Option Char) := do return (← get).head?

def advance : Reader Unit := modify (List.drop 1)

/-- Takes the characters in front that satisfy a test. -/
def span (p : Char → Bool) : Reader (List Char) := fun cs => .ok (cs.takeWhile p, cs.dropWhile p)

/-- Whether a text stands in front; it is consumed. -/
def skip? (word : String) : Reader Bool := fun cs =>
  if word.toList.isPrefixOf cs then .ok (true, cs.drop word.length) else .ok (false, cs)

end Reader

open Reader

/-! ## Faults -/

def badKey : String := "invalid key"

def expectedEquals : String := "expected `.`, `=`"

def badString : String := "invalid basic string"

def badLiteral : String := "invalid literal string"

def expectedString : String := "invalid string\nexpected `\"`, `'`"

def badInteger : String := "invalid integer"

def badHeader : String := "invalid table header\nexpected `.`, `]`"

def expectedEnd : String := "expected newline, `#`"

def badList : String := "invalid array\nexpected `]`"

def badInline : String := "invalid inline table\nexpected `\x7d`"

/-! ## Blanks -/

def isBlank (c : Char) : Bool := c == ' ' || c == '\t'

def isLineEnd (c : Char) : Bool := c == '\n' || c == '\r'

def blanks : Reader Unit := do let _ ← span isBlank

def comment : Reader Unit := do
  if (← peek) = some '#' then
    let _ ← span (!isLineEnd ·)

/-- Blanks, comments and line ends. -/
def gap : Nat → Reader Unit
  | 0 => pure ()
  | fuel + 1 => do
    let _ ← span fun c => isBlank c || isLineEnd c
    if (← peek) = some '#' then
      comment
      gap fuel

/-- Blanks and a comment up to the end of the line. -/
def lineEnd : Reader Unit := do
  blanks
  comment
  match ← peek with
  | none => pure ()
  | some c => if isLineEnd c then advance else fail expectedEnd

/-! ## Strings and keys -/

/-- The character of an escape after its backslash. -/
def escape : Reader Char := do
  let c ← peek
  let coded (width : Nat) : Reader Char := do
    advance
    let digits := (← get).take width
    match Digits.hexFold? 0 digits with
    | some n =>
      if digits.length = width ∧ n.isValidChar then
        modify (List.drop width)
        return Char.ofNat n
      else fail badString
    | none => fail badString
  let plain (x : Char) : Reader Char := do
    advance
    return x
  match c with
  | some 'b' => plain '\x08'
  | some 't' => plain '\t'
  | some 'n' => plain '\n'
  | some 'f' => plain '\x0c'
  | some 'r' => plain '\r'
  | some '"' => plain '"'
  | some '\\' => plain '\\'
  | some 'u' => coded 4
  | some 'U' => coded 8
  | _ => fail badString

/-- The rest of a string in double quotes. -/
def basicRest (acc : List Char) : Nat → Reader String
  | 0 => fail badString
  | fuel + 1 => do
    match ← peek with
    | some '"' =>
      advance
      return String.ofList acc.reverse
    | some '\\' =>
      advance
      let c ← escape
      basicRest (c :: acc) fuel
    | some c =>
      if isLineEnd c then fail badString
      else
        advance
        basicRest (c :: acc) fuel
    | none => fail badString

/-- The rest of a string that ends with three quotes of its own kind. -/
def longRest (quote : Char) (acc : List Char) : Nat → Reader String
  | 0 => fail badString
  | fuel + 1 => do
    if ← skip? (String.ofList [quote, quote, quote]) then return String.ofList acc.reverse
    match ← peek with
    | none => fail badString
    | some c =>
      advance
      let c ← if c = '\\' ∧ quote = '"' then escape else pure c
      longRest quote (c :: acc) fuel

def string (fuel : Nat) : Reader String := do
  let long (quote : Char) : Reader String := do
    let _ ← skip? "\n"
    longRest quote [] fuel
  if ← skip? "\"\"\"" then long '"'
  else if ← skip? "'''" then long '\''
  else if ← skip? "\"" then basicRest [] fuel
  else if ← skip? "'" then
    let cs ← span fun c => c != '\'' && !isLineEnd c
    if ← skip? "'" then return String.ofList cs else fail badLiteral
  else fail expectedString

def isBare (c : Char) : Bool := c.isAlphanum || c == '_' || c == '-'

/-- One part of a key. -/
def simpleKey (fuel : Nat) : Reader String := do
  match ← peek with
  | some c =>
    if c = '"' ∨ c = '\'' then string fuel
    else
      let cs ← span isBare
      if cs.isEmpty then fail badKey else return String.ofList cs
  | none => fail badKey

/-- A dotted key. -/
def key : Nat → Reader (List String)
  | 0 => fail badKey
  | fuel + 1 => do
    blanks
    let k ← simpleKey fuel
    blanks
    if ← skip? "." then return k :: (← key fuel) else return [k]

/-! ## Values -/

/-- Digits of a base with underscores between them. -/
def digits? (base : Nat) (cs : List Char) : Option Nat :=
  let step (acc : Option (Nat × Bool)) (c : Char) : Option (Nat × Bool) := do
    let (n, afterDigit) ← acc
    if c = '_' then if afterDigit then some (n, false) else none
    else
      let v ← Digits.hexValue? c
      if v < base then some (n * base + v, true) else none
  match cs.foldl step (some (0, false)) with
  | some (n, true) => some n
  | _ => none

/-- Beyond powers of ten of this size every number is too large, and every fraction is zero. -/
def extremeExponent : Nat := 400

/-- A decimal fraction with a point, an exponent or both. -/
def real? (minus : Bool) (cs : List Char) : Option Scalar := do
  let isE (c : Char) := c == 'e' || c == 'E'
  let front := cs.takeWhile (!isE ·)
  let e : Int ←
    match cs.dropWhile (!isE ·) with
    | [] => some 0
    | _ :: '-' :: rest => (digits? 10 rest).map fun n => -(n : Int)
    | _ :: '+' :: rest | _ :: rest => (digits? 10 rest).map fun n => (n : Int)
  let wholePart := front.takeWhile (· != '.')
  let fraction := (front.dropWhile (· != '.')).drop 1
  let w ← digits? 10 wholePart
  let (n, places) ←
    if front.contains '.' then
      (digits? 10 fraction).map fun f =>
        let places := (fraction.filter (· != '_')).length
        (w * Nat.pow 10 places + f, places)
    else some (w, 0)
  let e := e - places
  let x ←
    if n = 0 ∨ e < -(front.length + extremeExponent : Nat) then some Binary64.zero
    else if 0 ≤ e then
      if e < extremeExponent then Binary64.ofRatio? (n * Nat.pow 10 e.toNat) 1 else none
    else Binary64.ofRatio? n (Nat.pow 10 (-e).toNat)
  return .real minus x

/-- A number, without its sign. -/
def number? (minus : Bool) (cs : List Char) : Option Scalar :=
  let bounded (n : Nat) : Option Scalar :=
    if minus then if n ≤ 0x8000000000000000 then some (.whole (-n)) else none
    else if n < 0x8000000000000000 then some (.whole n) else none
  match cs with
  | '0' :: 'x' :: rest => (digits? 16 rest).bind bounded
  | '0' :: 'o' :: rest => (digits? 8 rest).bind bounded
  | '0' :: 'b' :: rest => (digits? 2 rest).bind bounded
  | ['0'] => bounded 0
  | '0' :: c :: _ => if c.isDigit || c == '_' then none else real? minus cs
  | _ => ((digits? 10 cs).bind bounded).orElse fun _ => real? minus cs

/-- A word that is no string: a truth value or a number. -/
def word : Reader Scalar := do
  let start ← get
  let cs ← span fun c => isBare c || c == '.' || c == '+' || c == ':'
  let value? : Option Scalar :=
    match cs with
    | '+' :: rest => number? false rest
    | '-' :: rest => number? true rest
    | _ =>
      if cs = "true".toList then some (.bool true)
      else if cs = "false".toList then some (.bool false)
      else number? false cs
  match value? with
  | some v => return v
  | none =>
    set start
    if cs.head?.any Char.isDigit then fail badInteger else fail expectedString

/-- Puts a value where a dotted key leads; `none` if something stands there already. -/
def putNew (value : Setting) (fs : List (String × Setting)) :
    List String → Option (List (String × Setting))
  | [] => none
  | [k] => if (fs.lookup k).isSome then none else some (fs ++ [(k, value)])
  | k :: rest =>
    match fs.lookup k with
    | none => (putNew value [] rest).map fun inner => fs ++ [(k, .table inner)]
    | some (.table inner) =>
      (putNew value inner rest).map fun inner => Setting.putField k (.table inner) fs
    | some _ => none

def duplicate (keys : List String) : String :=
  "duplicate key `" ++ keys.getLastD "" ++ "` in document root"

mutual

def value (origin : String) : Nat → Reader Setting
  | 0 => fail expectedString
  | fuel + 1 => do
    match ← peek with
    | some '[' =>
      advance
      items origin fuel
      return .list (some origin)
    | some '\x7b' =>
      advance
      return .table (← inline origin [] fuel)
    | some c =>
      if c = '"' ∨ c = '\'' then return .scalar (.text (← string fuel)) origin
      else return .scalar (← word) origin
    | none => fail expectedString

/-- Reads over the items of a list, up to its end. -/
def items (origin : String) : Nat → Reader Unit
  | 0 => fail badList
  | fuel + 1 => do
    gap fuel
    if ← skip? "]" then return ()
    let _ ← value origin fuel
    gap fuel
    if ← skip? "," then items origin fuel
    else if ← skip? "]" then return ()
    else fail badList

/-- The fields of a table in braces, up to its end. -/
def inline (origin : String) (fs : List (String × Setting)) :
    Nat → Reader (List (String × Setting))
  | 0 => fail badInline
  | fuel + 1 => do
    blanks
    if fs.isEmpty then
      if ← skip? "\x7d" then return fs
    let keys ← key fuel
    if !(← skip? "=") then fail expectedEquals
    blanks
    let v ← value origin fuel
    blanks
    match putNew v fs keys with
    | none => fail (duplicate keys)
    | some fs =>
      if ← skip? "," then inline origin fs fuel
      else if ← skip? "\x7d" then return fs
      else fail badInline

end

/-! ## Documents -/

/-- Goes to a table, which is made if it is not there. -/
def opened (fs : List (String × Setting)) (header : List String) : List (String × Setting) :=
  (putNew (.table []) fs header).getD fs

/-- Lines up to the end; `header` is the table that they are in. -/
def lines (origin : String) (fs : List (String × Setting)) (header : List String) :
    Nat → Reader (List (String × Setting))
  | 0 => return fs
  | fuel + 1 => do
    gap fuel
    match ← peek with
    | none => return fs
    | some '[' =>
      advance
      let many ← skip? "["
      let keys ← key fuel
      if !(← skip? (if many then "]]" else "]")) then fail badHeader
      lineEnd
      if many then
        lines origin (((putNew (.list (some origin)) fs keys)).getD fs) (keys ++ [""]) fuel
      else lines origin (opened fs keys) keys fuel
    | some _ =>
      let keys ← key fuel
      if !(← skip? "=") then fail expectedEquals
      blanks
      let v ← value origin fuel
      lineEnd
      match putNew v fs (header ++ keys) with
      | some fs => lines origin fs header fuel
      | none =>
        if header.getLast? = some "" then lines origin fs header fuel
        else fail (duplicate keys)

/-- A fault with its place in the text and the line that it is in. -/
def Flaw.text (f : Flaw) (cs : List Char) : String :=
  let before := cs.take (cs.length - f.left)
  let line := (before.filter (· == '\n')).length
  let column := (before.reverse.takeWhile (· != '\n')).length
  let start := before.length - column
  let content := (cs.drop start).takeWhile (· != '\n')
  let number := Digits.natText (line + 1)
  let margin := String.ofList (List.replicate (number.length + 1) ' ') ++ "|"
  "TOML parse error at line " ++ number ++ ", column " ++ Digits.natText (column + 1) ++ "\n" ++
    margin ++ "\n" ++ number ++ " | " ++ String.ofList content ++ "\n" ++
    margin ++ String.ofList (List.replicate (column + 1) ' ') ++ "^\n" ++ f.message ++ "\n"

/-- The settings of a document. -/
def read (origin : String) (text : String) : Except String (List (String × Setting)) :=
  let cs := text.toList
  match (lines origin [] [] (2 * cs.length + 2)).run cs with
  | .ok (fs, _) => .ok fs
  | .error f => .error (f.text cs)

end Roster.Settings.Toml
