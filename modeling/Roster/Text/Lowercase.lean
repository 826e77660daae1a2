/-
Roster.Text.Lowercase — lower case of a text, by the Unicode rules.

Every character has a lower-case image of its own except the capital sigma,
whose image hangs on its place: it becomes the final form where a word ends,
that is, where the nearest character before it that is not case-ignorable is
cased and the nearest such character after it is not.
-/
import Roster.Text.Blank
import Roster.Text.CaseTable

namespace Roster.Text

/-- The capital sigma. -/
def capitalSigma : Char := 'Σ'

/-- The lower-case image of a character away from its context. -/
def lowerChar (c : Char) : List Char :=
  if c.toNat < 0x80 then [c.toLower]
  else if c = 'İ' then ['i', '\u0307']
  else
    match lowerRuns.find? fun r => r.covers c.toNat with
    | some r => [Char.ofNat (r.image c.toNat)]
    | none => [c]

def isCased (c : Char) : Bool := inRanges casedRanges c.toNat

def isCaseIgnorable (c : Char) : Bool := inRanges caseIgnorableRanges c.toNat

/-- Whether the first character that is not case-ignorable is cased. -/
def meetsCased (cs : List Char) : Bool :=
  match cs.dropWhile isCaseIgnorable with
  | c :: _ => isCased c
  | [] => false

/-- The lower-case form of a sigma that follows `before` (nearest first). -/
def lowerSigma (before after : List Char) : Char :=
  if meetsCased before && !meetsCased after then 'ς' else 'σ'

/-- Lower case of the characters that follow `before` (nearest first). -/
def lowerFrom (before : List Char) : List Char → List Char
  | [] => []
  | c :: rest =>
    (if c = capitalSigma then [lowerSigma before rest] else lowerChar c) ++
      lowerFrom (c :: before) rest

def lowerChars (cs : List Char) : List Char := lowerFrom [] cs

/-- The text in lower case. -/
def lowercase (s : String) : String := String.ofList (lowerChars s.toList)

end Roster.Text
