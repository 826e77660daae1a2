/-
Roster.Text.Rows — tables written as text.

A table is rows with blanks between them, a row is numbers with commas between
them, and a number has digits of base 36 in lower case.
-/
namespace Roster.Text

/-- The value of a digit of base 36. -/
def digit36 (c : Char) : Nat := if c.isDigit then c.toNat - 0x30 else c.toNat - 0x57

/-- The numbers of a row; the last one continues `n`. -/
def readRow (n : Nat) : List Char → List Nat
  | [] => [n]
  | c :: rest => if c = ',' then n :: readRow 0 rest else readRow (n * 36 + digit36 c) rest

/-- The words of a text, each with its characters; `word` is being read, last first. -/
def words (done : Array (List Char)) (word : List Char) : List Char → Array (List Char)
  | [] => if word.isEmpty then done else done.push word.reverse
  | c :: rest =>
    if c.isWhitespace then
      if word.isEmpty then words done [] rest else words (done.push word.reverse) [] rest
    else words done (c :: word) rest

/-- The rows of a table. -/
def rows (text : String) : Array (List Nat) := (words #[] [] text.toList).map (readRow 0)

/-- Whether a number lies between the first two numbers of a row. -/
def inRow (n : Nat) : List Nat → Bool
  | low :: high :: _ => decide (low ≤ n) && decide (n ≤ high)
  | _ => false

end Roster.Text
