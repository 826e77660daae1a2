/-
Roster.Settings.Ini — settings written as lines under headings.

A line is `name = value` or `name: value`; it belongs to the heading in brackets
above it, if there is one, whose settings make a table. A line that starts with
a semicolon or a number sign is a comment. All values are texts, and parts of
them may be quoted.
-/
import Roster.Settings.Tree
import Roster.Text.Blank

namespace Roster.Settings.Ini

open Text (trimChars trimFront trimBack)

def isQuote (c : Char) : Bool := c == '"' || c == '\''

/-- A value: quoted parts as they stand, and what follows them without blanks at its end. -/
def value (cs : List Char) : List Char :=
  match cs with
  | [] => []
  | c :: rest =>
    if isQuote c then
      rest.takeWhile (· ≠ c) ++ value ((rest.dropWhile (· ≠ c)).drop 1)
    else trimBack (c :: rest)
termination_by cs.length
decreasing_by
  have := (List.dropWhile_suffix (l := rest) (· ≠ c)).length_le
  simp only [List.length_drop, List.length_cons]
  omega

def isDelimiter (c : Char) : Bool := c == '=' || c == ':'

/-- The name and the value on a line. -/
def field? (line : List Char) : Option (String × String) :=
  match line.dropWhile (!isDelimiter ·) with
  | [] => none
  | _ :: rest =>
    some (String.ofList (trimChars (line.takeWhile (!isDelimiter ·))),
      String.ofList (value (trimFront rest)))

/-- The settings so far, and the heading under which the next ones stand. -/
structure Progress where
  heading : Option String
  fields : List (String × Setting)

/-- The fields of the table under a heading. -/
def under (fs : List (String × Setting)) (heading : String) : List (String × Setting) :=
  ((fs.lookup heading).map Setting.fields).getD []

/-- Puts a setting under the heading. -/
def Progress.put (p : Progress) (name : String) (v : Setting) : List (String × Setting) :=
  match p.heading with
  | none => Setting.putField name v p.fields
  | some h => Setting.putField h (.table (Setting.putField name v (under p.fields h))) p.fields

/-- Goes on with a line; a complaint names the line. -/
def Progress.line (origin : String) (p : Progress) (number : Nat) (cs : List Char) :
    Except String Progress :=
  let cs := trimChars cs
  let flaw (cause : String) : Except String Progress :=
    .error (Digits.natText number ++ ":0 " ++ cause)
  match cs with
  | [] | ';' :: _ | '#' :: _ => .ok p
  | '[' :: rest =>
    if rest.contains ']' then
      let h := String.ofList (trimChars (rest.takeWhile (· ≠ ']')))
      .ok ⟨some h, Setting.putField h (.table (under p.fields h)) p.fields⟩
    else flaw "expecting \"]\" but found EOF."
  | _ =>
    match field? cs with
    | none => flaw "expecting \"[Some('='), Some(':')]\" but found EOF."
    | some ("", _) => flaw "missing key"
    | some (name, v) => .ok { p with fields := p.put name (.scalar (.text v) origin) }

/-- The settings of a text. -/
def read (origin text : String) : Except String (List (String × Setting)) := do
  let lines := (text.splitOn "\n").zipIdx 1
  let p ← lines.foldlM (fun p (line, number) => Progress.line origin p number line.toList)
    ⟨none, []⟩
  return p.fields

end Roster.Settings.Ini
