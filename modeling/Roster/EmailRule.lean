/-
Roster.EmailRule — which texts are e-mail addresses.

An address is cut at its last `@`. The part before it has at most 64 characters,
all of them letters, digits or certain signs of ASCII. The part behind has at
most 255 characters and is a name of labels with points between, or ends in an
internet address in brackets; if it is neither, it is tried again in plain
characters.
-/
import Roster.Net.Address
import Roster.Net.Domain

namespace Roster.EmailRule

/-- The signs that may stand before the `@`. -/
def localSigns : List Char := ".!#$%&'*+/=?^_`\x7b|\x7d~-".toList

def isLocalChar (c : Char) : Bool := c.isAlphanum || localSigns.contains c

/-- Whether a text may stand before the `@`. -/
def isLocal (cs : List Char) : Bool := cs ≠ [] && cs.all isLocalChar

/-- One label: letters, digits and inner hyphens, 63 at most. -/
def isLabel (cs : List Char) : Bool :=
  cs ≠ [] && cs.length ≤ 63 && cs.all (fun c => c.isAlphanum || c = '-') &&
    cs.head? ≠ some '-' && cs.getLast? ≠ some '-'

def isName (cs : List Char) : Bool := (Net.Domain.labels cs).all isLabel

/-- Whether a text ends in an internet address in brackets. -/
def endsInAddress (cs : List Char) : Bool :=
  match cs.reverse with
  | ']' :: rest =>
    let inner := (rest.takeWhile (· ≠ '[')).reverse
    (rest.drop inner.length).head? = some '[' &&
      (Net.Address.ofText? (String.ofList inner)).isSome
  | _ => false

def isDomain (cs : List Char) : Bool := isName cs || endsInAddress cs

/-- The characters before and after the last `@`. -/
def split? (cs : List Char) : Option (List Char × List Char) :=
  let after := (cs.reverse.takeWhile (· ≠ '@')).reverse
  match cs.reverse.dropWhile (· ≠ '@') with
  | _ :: before => some (before.reverse, after)
  | [] => none

/-- Whether a text is an e-mail address. -/
def isEmail (s : String) : Bool :=
  match split? s.toList with
  | none => false
  | some (user, domain) =>
    user.length ≤ 64 && domain.length ≤ 255 && isLocal user &&
      (isDomain domain || (Net.Domain.toAscii? domain).any isDomain)

end Roster.EmailRule
