/-
Roster.Settings.Yaml — settings written as YAML.

A line is `name: value`, and lines that are indented further belong to it: they
make a table, a list, or more of its text. A value without quotes is nothing, a
truth value, a number, or else a text; in double quotes escapes are replaced.
Comments begin at a number sign after a blank.
-/
import Roster.Settings.Number
import Roster.Settings.Toml
import Roster.Settings.Tree
import Roster.Text.Blank

namespace Roster.Settings.Yaml

open Text (trimChars trimFront trimBack)

/-! ## Lines -/

/-- A line that says something. -/
structure Line where
  indent : Nat
  text : List Char

/-- A line up to its comment; inside quotes there is none. -/
def withoutComment (quote : Option Char) (afterBlank : Bool) : List Char → List Char
  | [] => []
  | c :: rest =>
    match quote with
    | some q => c :: withoutComment (if c = q then none else quote) false rest
    | none =>
      if c = '#' ∧ afterBlank then []
      else
        let opens := afterBlank && (c == '"' || c == '\'')
        c :: withoutComment (if opens then some c else none) (Text.isBlank c) rest

def Line.ofChars (cs : List Char) : Line :=
  ⟨(cs.takeWhile (· = ' ')).length, trimChars (withoutComment none true cs)⟩

/-- Whether a line is an item of a list. -/
def Line.isItem (l : Line) : Bool := l.text = ['-'] || ['-', ' '].isPrefixOf l.text

/-- The lines of the first document in a text. -/
def linesOf (text : String) : List Line :=
  let said := ((text.splitOn "\n").map fun s => Line.ofChars s.toList).filter (·.text ≠ [])
  let body := match said with
    | l :: rest => if l.text = ['-', '-', '-'] then rest else said
    | [] => []
  body.takeWhile (·.text ≠ ['.', '.', '.'])

/-! ## Scalars -/

/-- A value that is not quoted. -/
def plain (cs : List Char) : Scalar :=
  let s := String.ofList cs
  let unsigned := match cs with
    | '-' :: rest | '+' :: rest => rest
    | _ => cs
  if s == "" || s == "~" || s == "null" then .nothing
  else if s == "true" then .bool true
  else if s == "false" then .bool false
  else
    let isHex := ['0', 'x'].isPrefixOf cs ∧ cs.length > 2
    let hex := if isHex then Digits.hexFold? 0 (cs.drop 2) else none
    match hex, (NumberKind.int64.parse s).toOption with
    | some n, _ => .whole n
    | none, some n => .whole n
    | none, none =>
      if cs.contains '_' then .text s
      else (Toml.real? (cs.head? = some '-') unsigned).getD (.text s)

/-- The character that an escape of one letter stands for. -/
def escape (c : Char) : Char :=
  match c with
  | 'n' => '\n'
  | 't' => '\t'
  | 'r' => '\r'
  | '0' => Char.ofNat 0
  | c => c

/-- The text in double quotes, after the opening one. -/
def double : List Char → List Char
  | '\\' :: c :: rest => escape c :: double rest
  | '"' :: _ => []
  | c :: rest => c :: double rest
  | [] => []

/-- The text in single quotes, after the opening one; a quote in it is written twice. -/
def single : List Char → List Char
  | '\'' :: '\'' :: rest => '\'' :: single rest
  | '\'' :: _ => []
  | c :: rest => c :: single rest
  | [] => []

/-! ## Fields -/

/-- The name on a line and what follows its colon. -/
def field? (cs : List Char) : Option (String × List Char) :=
  match cs with
  | '"' :: rest => quoted '"' (double rest) rest
  | '\'' :: rest => quoted '\'' (single rest) rest
  | _ => colon [] cs
where
  quoted (q : Char) (name rest : List Char) : Option (String × List Char) :=
    match trimFront ((rest.dropWhile (· ≠ q)).drop 1) with
    | ':' :: value => some (String.ofList name, trimFront value)
    | _ => none
  /-- Looks for a colon that ends the line or that a blank follows. -/
  colon (name : List Char) : List Char → Option (String × List Char)
    | [':'] => some (String.ofList (trimBack name.reverse), [])
    | ':' :: ' ' :: rest => some (String.ofList (trimBack name.reverse), trimFront rest)
    | c :: rest => colon (c :: name) rest
    | [] => none

/-- A value with the lines that belong to it. -/
def valueOf (origin : String) (cs : List Char) (block : List Line) : Setting :=
  let joined (mark : Char) : String :=
    String.ofList (List.intercalate [mark] (block.map (·.text)))
  match cs with
  | '"' :: rest => .scalar (.text (String.ofList (double rest))) origin
  | '\'' :: rest => .scalar (.text (String.ofList (single rest))) origin
  | '[' :: _ => .list (some origin)
  | '\x7b' :: _ => .table []
  | '|' :: _ => .scalar (.text (joined '\n' ++ "\n")) origin
  | '>' :: _ => .scalar (.text (joined ' ' ++ "\n")) origin
  | [] =>
    match block with
    | [] => .scalar .nothing origin
    | l :: _ =>
      if l.isItem then .list (some origin)
      else if (field? l.text).isSome then .table []
      else .scalar (.text (joined ' ')) origin
  | _ =>
    if block.isEmpty then .scalar (plain cs) origin
    else .scalar (.text (String.ofList cs ++ " " ++ joined ' ')) origin

/-- Whether a line belongs to the field on a line with the given indentation. -/
def belongs (indent : Nat) (l : Line) : Bool :=
  indent < l.indent || (l.indent == indent && l.isItem)

/-- Reads the fields on lines of one indentation. -/
def fieldsOf (origin : String) (acc : List (String × Setting)) (lines : List Line) :
    Except String (List (String × Setting)) :=
  match lines with
  | [] => .ok acc
  | l :: rest =>
    match field? l.text with
    | none => .error "could not find expected ':'"
    | some (name, cs) =>
      let v := valueOf origin cs (rest.takeWhile (belongs l.indent))
      fieldsOf origin (Setting.putField name v acc) (rest.dropWhile (belongs l.indent))
termination_by lines.length
decreasing_by
  have := (List.dropWhile_suffix (l := rest) (belongs l.indent)).length_le
  simp only [List.length_cons]
  omega

/-- The setting that a whole text is. -/
def read (origin text : String) : Except String Setting :=
  match linesOf text with
  | [] => .ok (.table [])
  | l :: rest =>
    if !l.isItem && (field? l.text).isSome then (fieldsOf origin [] (l :: rest)).map .table
    else .ok (valueOf origin [] (l :: rest))

end Roster.Settings.Yaml
