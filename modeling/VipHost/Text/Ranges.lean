/-!
# Classes of characters

A class of characters is written as a list of ranges of code points, each with
its first and its last one.
-/

namespace VipHost.Text

/-- Whether the code point of a character lies in one of some ranges. -/
def inRanges (ranges : List (Nat × Nat)) (c : Char) : Bool :=
  ranges.any fun (first, last) => first ≤ c.toNat && c.toNat ≤ last

end VipHost.Text
