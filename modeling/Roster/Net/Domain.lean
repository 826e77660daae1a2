/-
Roster.Net.Domain — domain names of any script in plain characters.

The characters of a name are mapped: some stay, some vanish, some become
others. The result is composed and cut at its points; a label that begins with
`xn--` is unfolded. Each label must then begin with no mark and hold allowed
characters only, and if one is written from right to left, all must obey the
rules for mixed directions. At last every label that is not plain is folded.
-/
import Roster.Net.DomainTable
import Roster.Net.Punycode
import Roster.Text.BidiTable
import Roster.Text.Normal

namespace Roster.Net.Domain

open Roster.Text (BidiClass inRow)

/-- What a character of a name becomes. -/
inductive Mapping where
  | stays
  | becomes (image : List Char)
  | notAllowed
  deriving DecidableEq, Repr

/-- Whether a character is its own image without a look into the tables. -/
def isPlain (c : Char) : Bool := c = '.' || c = '-' || c.isLower || c.isDigit

/-- The mapping of a character. -/
def mapping (c : Char) : Mapping :=
  let n := c.toNat
  if isPlain c then .stays
  else if (validRanges.find? (inRow n)).isSome then .stays
  else if (ignoredRanges.find? (inRow n)).isSome then .becomes []
  else
    match mappedRuns.find? fun row => inRow n row && (n - row.getD 0 0) % row.getD 2 1 = 0 with
    | some [first, _, _, image] => .becomes [Char.ofNat (image + (n - first))]
    | _ =>
      match mappedImages.find? fun row => row.head? = some n with
      | some (_ :: image) => .becomes (image.map Char.ofNat)
      | _ => .notAllowed

/-- The images of all characters, if all are allowed. -/
def mapped? (cs : List Char) : Option (List Char) :=
  (cs.mapM fun c => match mapping c with
    | .stays => some [c]
    | .becomes image => some image
    | .notAllowed => none).map List.flatten

/-- The pieces between points. -/
def labels : List Char → List (List Char)
  | [] => [[]]
  | c :: rest =>
    if c = '.' then [] :: labels rest
    else
      match labels rest with
      | [] => [[c]]
      | label :: more => (c :: label) :: more

/-- What begins a folded label. -/
def foldedPrefix : List Char := ['x', 'n', '-', '-']

/-- Whether a label begins with no mark and holds characters that stay as they are. -/
def isValid (label : List Char) : Bool :=
  match label with
  | [] => true
  | c :: _ => !Text.isMark c && label.all fun c => mapping c = .stays

/-- The unfolded label, if it is valid; a folded one must come out composed. -/
def opened? (label : List Char) : Option (List Char) :=
  if foldedPrefix.isPrefixOf label then do
    let inner ← Punycode.decode? (label.drop 4)
    if Text.normalizeChars inner = inner ∧ isValid inner then return inner
    none
  else if isValid label then some label
  else none

/-! ## Mixed directions -/

def isRightToLeft (c : Char) : Bool :=
  match BidiClass.of c with
  | .r | .al | .an => true
  | _ => false

/-- The classes that may follow the first character of a label. -/
def mayFollow (leftToRight : Bool) : BidiClass → Bool
  | .en | .es | .cs | .et | .on | .bn | .nsm => true
  | .l => leftToRight
  | .r | .al | .an => !leftToRight
  | .other => false

/-- The last class that is not that of a mark. -/
def lastClass? (classes : List BidiClass) : Option BidiClass :=
  (classes.reverse.dropWhile (· = .nsm)).head?

/-- The rules for a label of a name with a right-to-left label. -/
def obeysDirections (label : List Char) : Bool :=
  let classes := label.map BidiClass.of
  match classes with
  | [] => true
  | .l :: rest =>
    rest.all (mayFollow true) &&
      match lastClass? classes with
      | some .l | some .en => true
      | some _ => false
      | none => true
  | .r :: rest | .al :: rest =>
    rest.all (mayFollow false) &&
      (match lastClass? classes with
        | some .r | some .al | some .en | some .an => true
        | _ => false) &&
      !(rest.contains .en && rest.contains .an)
  | _ => false

/-! ## Whole names -/

/-- Folds a label unless it is plain. -/
def fold? (label : List Char) : Option (List Char) :=
  if label.all fun c => c.toNat < 0x80 then some label
  else (Punycode.encode? label).map (foldedPrefix ++ ·)

/-- The name in plain characters, if it is a name at all. -/
def toAscii? (name : List Char) : Option (List Char) := do
  let cs := Text.normalizeChars (← mapped? name)
  let parts ← (labels cs).mapM opened?
  let joined := List.intercalate ['.'] parts
  if parts.any (·.any isRightToLeft) ∧ ¬ (labels joined).all obeysDirections then none
  let folded ← (labels joined).mapM fold?
  return List.intercalate ['.'] folded

end Roster.Net.Domain
