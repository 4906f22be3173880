import VipHost.Binary64.Basic

/-!
# Doubles written in decimal

*Reading.*  `ofDecimal` takes the exact number `digits * 10 ^ exponent` to the
nearest double.  Exponents far outside the range of doubles are answered
without writing the power out.

*Writing.*  A number is written with the fewest digits that read back as the
same double, and of those with the nearest.  A decimal reads back as a pattern
when it lies between the two midpoints to the neighbouring patterns; the
midpoints belong to the interval when the pattern is even, since a half goes to
the even one.  Of each grid of decimals only the two neighbours of the number
have to be tried: if any point of the grid is in the interval, one of them is.
-/

namespace VipHost.Binary64

/-! ## Reading -/

/-- How many digits a natural is written with. -/
def digitCount (n : Nat) : Nat := (Nat.toDigits 10 n).length

/-- The double nearest to `digits * 10 ^ exponent`. -/
def ofDecimal (negative : Bool) (digits : Nat) (exponent : Int) : Binary64 :=
  let leading := exponent + digitCount digits
  if digits = 0 ∨ leading < -330 then zero negative
  else if 330 < leading then infinity negative
  else if 0 ≤ exponent then
    ofPattern negative (roundMagnitude (digits * Nat.pow 10 exponent.toNat) 1)
  else
    ofPattern negative (roundMagnitude digits (Nat.pow 10 (-exponent).toNat))

/-! ## The fewest digits -/

/-- A magnitude in decimal: the digits of a natural, the first of them with the
given power of ten. -/
structure Scientific where
  /-- The digits, with no zero at the end unless it is the only one. -/
  digits : List Char
  /-- The power of ten of the first digit. -/
  exponent : Int
deriving DecidableEq, Repr

/-- A quotient of naturals `num / den * 10 ^ power`, as a numerator and a
denominator. -/
def scaleByTen (num den : Nat) (power : Int) : Nat × Nat :=
  if 0 ≤ power then (num * Nat.pow 10 power.toNat, den)
  else (num, den * Nat.pow 10 (-power).toNat)

/-- Whether `digits * 10 ^ power` rounds to the pattern. -/
def readsBack (pattern digits : Nat) (power : Int) : Bool :=
  let (num, den) := scaleByTen digits 1 power
  let twice := 2 * num * unitsPerOne
  let below := den * (unitsOf (pattern - 1) + unitsOf pattern)
  let above := den * (unitsOf pattern + unitsOf (pattern + 1))
  if pattern % 2 = 0 then below ≤ twice && twice ≤ above else below < twice && twice < above

/-- The least `k` with `1 ≤ num * 10 ^ k / den`, found by counting up. -/
def placesBelowOne : Nat → Nat → Nat → Nat
  | 0, _, _ => 0
  | fuel + 1, num, den => if den ≤ num then 0 else placesBelowOne fuel (10 * num) den + 1

/-- The power of ten of the first digit of a pattern other than zero. -/
def leadingPower (pattern : Nat) : Int :=
  let units := unitsOf pattern
  if unitsPerOne ≤ units then (digitCount (units / unitsPerOne) : Int) - 1
  else -(placesBelowOne 400 units unitsPerOne : Int)

/-- The decimal on the grid of `10 ^ power` that reads back, the nearer of the
two neighbours if both do. -/
def onGrid? (pattern : Nat) (power : Int) : Option Nat :=
  let (num, den) := scaleByTen (unitsOf pattern) unitsPerOne (-power)
  let lower := num / den
  let nearer := if 2 * (num % den) < den then lower else lower + 1
  if readsBack pattern lower power && readsBack pattern (lower + 1) power then some nearer
  else if readsBack pattern lower power then some lower
  else if readsBack pattern (lower + 1) power then some (lower + 1)
  else none

/-- The first grid with a decimal that reads back, from coarse to fine. -/
def coarsestGrid : Nat → Nat → Int → Nat × Int
  | 0, pattern, power => ((onGrid? pattern power).getD 0, power)
  | fuel + 1, pattern, power =>
    match onGrid? pattern power with
    | some digits => (digits, power)
    | none => coarsestGrid fuel pattern (power - 1)

/-- The shortest decimal that reads back as the pattern. -/
def shortest (pattern : Nat) : Scientific :=
  if pattern = 0 then ⟨['0'], 0⟩
  else
    let (digits, power) := coarsestGrid 17 pattern (leadingPower pattern)
    let written := Nat.toDigits 10 digits
    ⟨(written.reverse.dropWhile (· = '0')).reverse, power + written.length - 1⟩

/-! ## Texts -/

/-- When a number is written with an exponent. -/
structure Style where
  /-- Least power of ten of the first digit that is still written out. -/
  least : Option Int
  /-- Greatest power of ten of the first digit that is still written out. -/
  greatest : Option Int

/-- Every number is written out in full. -/
def Style.writtenOut : Style := ⟨none, none⟩

/-- Numbers from `0.0001` up to `10 ^ 16` are written out. -/
def Style.short : Style := ⟨some (-4), some 15⟩

/-- The digits with a point after the first, and the power of ten. -/
def Scientific.withExponent (s : Scientific) : String :=
  let mantissa := match s.digits with
    | [] => "0"
    | [d] => String.singleton d
    | d :: rest => String.ofList (d :: '.' :: rest)
  mantissa ++ "e" ++ toString s.exponent

/-- The digits around a point, with at least one digit on each side. -/
def Scientific.positional (s : Scientific) : String :=
  if s.exponent < 0 then
    String.ofList ("0.".toList ++ List.replicate (-s.exponent - 1).toNat '0' ++ s.digits)
  else
    let whole := s.exponent.toNat + 1
    let before := s.digits.take whole
    let after := s.digits.drop whole
    String.ofList (before ++ List.replicate (whole - before.length) '0' ++ '.' ::
      (if after.isEmpty then ['0'] else after))

/-- The text of a double in a style: its sign, and the fewest digits that read
back. -/
def toText (style : Style) (x : Binary64) : String :=
  if x.isNaN then "NaN"
  else
    let s := shortest x.pattern
    let tooSmall := style.least.any (s.exponent < ·) && x.pattern ≠ 0
    let tooLarge := style.greatest.any (· < s.exponent)
    let magnitude :=
      if x.isInfinite then "inf"
      else if tooSmall || tooLarge then s.withExponent
      else s.positional
    if x.negative then "-" ++ magnitude else magnitude

end VipHost.Binary64
