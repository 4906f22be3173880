import VipHost.Text.Ranges

/-!
# Blanks

The characters that only make space between others: the space itself, tabs and
line ends, and the spaces and line ends of other scripts.
-/

namespace VipHost.Text

/-- The ranges of code points that are blank. -/
def blankRanges : List (Nat × Nat) := [
    (0x9, 0xd), (0x20, 0x20), (0x85, 0x85), (0xa0, 0xa0), (0x1680, 0x1680), (0x2000, 0x200a),
    (0x2028, 0x2029), (0x202f, 0x202f), (0x205f, 0x205f), (0x3000, 0x3000)
  ]

/-- Whether a character only makes space. -/
def isBlank (c : Char) : Bool := inRanges blankRanges c

/-- A text without the blanks at its ends. -/
def trim (s : List Char) : List Char := ((s.dropWhile isBlank).reverse.dropWhile isBlank).reverse

end VipHost.Text
