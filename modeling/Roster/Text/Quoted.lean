/-
Roster.Text.Quoted — the quoted form in which a message shows a text.

A quoted text stands in double quotes. Quotes, backslashes, tabs and line ends
are written with a backslash, and a character that has no shape of its own or
that would attach to its neighbour is written as its code point in braces.
-/
import Roster.Digits
import Roster.Text.Blank
import Roster.Text.PrintableTable

namespace Roster.Text

/-- Hexadecimal digits without leading zeros. -/
def hexOnto (n : Nat) (tail : List Char) : List Char :=
  let tail := Digits.hexDigit (n % 16) :: tail
  if n < 16 then tail else hexOnto (n / 16) tail
termination_by n

/-- Whether a character is shown by its code point. -/
def isHidden (c : Char) : Bool :=
  inRanges hiddenRanges c.toNat || inRanges graphemeExtendRanges c.toNat

/-- The form of one character inside quotes. -/
def quoteChar (c : Char) : List Char :=
  if c = '"' ∨ c = '\\' then ['\\', c]
  else if c = '\t' then ['\\', 't']
  else if c = '\n' then ['\\', 'n']
  else if c = '\r' then ['\\', 'r']
  else if c.toNat = 0 then ['\\', '0']
  else if isHidden c then ['\\', 'u', '\x7b'] ++ hexOnto c.toNat ['\x7d']
  else [c]

/-- The text in double quotes. -/
def quoted (s : String) : String :=
  String.ofList ('"' :: s.toList.flatMap quoteChar ++ ['"'])

end Roster.Text
