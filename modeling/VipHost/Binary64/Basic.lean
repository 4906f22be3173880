/-!
# Double precision numbers

A `Binary64` is a 64 bit pattern read by the rules of IEEE 754.  Everything
here is exact arithmetic on naturals and rationals, so that statements about
time stamps and rates can be proved without trusting a machine unit.

*Reading.*  A finite magnitude is a whole number of *units* of `2⁻¹⁰⁷⁴`, the
least positive double (`unitsOf`).  On the bit patterns below the sign bit
`unitsOf` is strictly increasing, so the patterns are ordered as the numbers
are.

*Writing.*  `roundMagnitude` takes a quotient of naturals to the nearest
pattern, a half going to the even one.  With `s` the number of binary places
that a quotient has too many, the pattern is `s * 2⁵² + m` for the rounded
quotient `m`.  One formula serves subnormal and normal numbers, and a carry out
of `m` moves to the next exponent by itself.
-/

namespace VipHost

/-- A double, given by its bits. -/
structure Binary64 where
  /-- The bits: a sign, eleven bits of exponent, 52 bits of fraction. -/
  bits : UInt64
deriving DecidableEq, Repr, Inhabited

namespace Binary64

/-! ## Reading the bits -/

/-- The weight of the sign bit. -/
def signWeight : Nat := 9223372036854775808

/-- The weight of the lowest bit of the exponent, which is the number of
fractions. -/
def exponentWeight : Nat := 4503599627370496

/-- The pattern of infinity.  Patterns above it are not numbers. -/
def infinityPattern : Nat := 2047 * exponentWeight

/-- Whether the sign bit is set. -/
def negative (x : Binary64) : Bool := signWeight ≤ x.bits.toNat

/-- The bits without the sign. -/
def pattern (x : Binary64) : Nat := x.bits.toNat % signWeight

/-- The magnitude of a pattern, in units of `2⁻¹⁰⁷⁴`. -/
def unitsOf (pattern : Nat) : Nat :=
  if pattern < exponentWeight then pattern
  else
    (exponentWeight + pattern % exponentWeight) * Nat.pow 2 (pattern / exponentWeight - 1)

/-- The number of units in one. -/
def unitsPerOne : Nat := Nat.pow 2 1074

/-- Not a number. -/
def isNaN (x : Binary64) : Bool := infinityPattern < x.pattern

/-- One of the two infinities. -/
def isInfinite (x : Binary64) : Bool := x.pattern = infinityPattern

/-- A number: neither infinite nor not a number. -/
def isFinite (x : Binary64) : Bool := x.pattern < infinityPattern

/-- The number a double stands for, if it is finite. -/
def value? (x : Binary64) : Option Rat :=
  if x.isFinite then
    let magnitude := mkRat (unitsOf x.pattern) unitsPerOne
    some (if x.negative then -magnitude else magnitude)
  else none

/-! ## Rounding -/

/-- The natural nearest to `num / den`, a half going to the even one. -/
def roundHalfEven (num den : Nat) : Nat :=
  let quotient := num / den
  let twice := 2 * (num % den)
  if twice < den then quotient
  else if den < twice then quotient + 1
  else quotient + quotient % 2

/-- The pattern nearest to `num / den`.  A quotient too large for every finite
double gives the pattern of infinity. -/
def roundMagnitude (num den : Nat) : Nat :=
  let units := num * unitsPerOne
  let shift := (units / den).log2 - 52
  min (shift * exponentWeight + roundHalfEven units (den * Nat.pow 2 shift)) infinityPattern

/-- The double with the given sign and pattern. -/
def ofPattern (negative : Bool) (pattern : Nat) : Binary64 :=
  ⟨UInt64.ofNat (if negative then signWeight + pattern else pattern)⟩

/-- The double nearest to a number.  A zero gets the sign asked for. -/
def ofRat (q : Rat) (negativeZero : Bool := false) : Binary64 :=
  ofPattern (if q.num = 0 then negativeZero else decide (q.num < 0))
    (roundMagnitude q.num.natAbs q.den)

/-- The double nearest to a natural. -/
def ofNat (n : Nat) : Binary64 := ofPattern false (roundMagnitude n 1)

/-- The double nearest to an integer. -/
def ofInt (n : Int) : Binary64 := ofPattern (decide (n < 0)) (roundMagnitude n.natAbs 1)

/-- One infinity. -/
def infinity (negative : Bool) : Binary64 := ofPattern negative infinityPattern

/-- The usual pattern that is not a number. -/
def nan : Binary64 := ofPattern false (infinityPattern + exponentWeight / 2)

/-- A zero. -/
def zero (negative : Bool) : Binary64 := ofPattern negative 0

/-! ## Order -/

/-- A key that orders numbers and infinities; both zeros have key `0`. -/
def orderKey (x : Binary64) : Int := if x.negative then -(x.pattern : Int) else x.pattern

/-- `x ≤ y`, false when one of the two is not a number. -/
def le (x y : Binary64) : Bool :=
  !x.isNaN && !y.isNaN && decide (x.orderKey ≤ y.orderKey)

/-- `x < y`, false when one of the two is not a number. -/
def lt (x y : Binary64) : Bool :=
  !x.isNaN && !y.isNaN && decide (x.orderKey < y.orderKey)

/-- `x = y` as numbers: the zeros are equal, and nothing equals a pattern that
is not a number. -/
def sameNumber (x y : Binary64) : Bool := x.le y && y.le x

/-- The larger of two doubles; of a pattern that is not a number and a number,
the number. -/
def max (x y : Binary64) : Binary64 :=
  if x.isNaN then y else if y.isNaN then x else if x.le y then y else x

end Binary64

end VipHost
