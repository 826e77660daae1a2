/-
Roster.Text.Blank — Unicode white space and trimming.

The class is the White_Space property: the ASCII controls from tab to carriage
return, the space, NEL, the no-break space and the spaces and separators of the
general punctuation and CJK blocks. Zero-width characters are not in it.
`trim` removes it at both ends of a text and nowhere else.
-/
namespace Roster.Text

/-- The white-space characters, as inclusive ranges of code points. -/
def blankRanges : List (Nat × Nat) :=
  [(0x9, 0xD), (0x20, 0x20), (0x85, 0x85), (0xA0, 0xA0), (0x1680, 0x1680), (0x2000, 0x200A),
    (0x2028, 0x2029), (0x202F, 0x202F), (0x205F, 0x205F), (0x3000, 0x3000)]

/-- Membership of a code point in a list of inclusive ranges. -/
def inRanges (ranges : List (Nat × Nat)) (n : Nat) : Bool :=
  ranges.any fun r => decide (r.1 ≤ n) && decide (n ≤ r.2)

def isBlank (c : Char) : Bool := inRanges blankRanges c.toNat

/-- Drops white space at the front. -/
def trimFront (cs : List Char) : List Char := cs.dropWhile isBlank

/-- Drops white space at the back. -/
def trimBack (cs : List Char) : List Char := (cs.reverse.dropWhile isBlank).reverse

def trimChars (cs : List Char) : List Char := trimBack (trimFront cs)

/-- The text without white space at its two ends. -/
def trim (s : String) : String := String.ofList (trimChars s.toList)

end Roster.Text
