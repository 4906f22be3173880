import VipHost.Binary64.Basic

/-!
# Arithmetic of doubles

The exact result of an operation on finite doubles, rounded once to the nearest
double.  The other cases follow IEEE 754.  `toUInt64` drops the fraction and
stops at both ends of the range.

A square root is hardly ever a quotient of naturals.  `sqrt` rounds a quotient
that is on the same side of every double and of the middle between two of them:
the whole part of the root in very small units, and half a unit if there is a
fraction.
-/

namespace VipHost.Binary64

/-- The double with the other sign. -/
def neg (x : Binary64) : Binary64 := ofPattern (!x.negative) x.pattern

/-- The double without its sign. -/
def abs (x : Binary64) : Binary64 := ofPattern false x.pattern

/-- The sum, rounded to nearest. -/
def add (x y : Binary64) : Binary64 :=
  match x.value?, y.value? with
  | some a, some b => ofRat (a + b) (x.negative && y.negative)
  | some _, none => y
  | none, some _ => x
  | none, none => if x.bits = y.bits then x else nan

/-- The difference, rounded to nearest. -/
def sub (x y : Binary64) : Binary64 := x.add y.neg

/-- The product, rounded to nearest. -/
def mul (x y : Binary64) : Binary64 :=
  let negative := x.negative != y.negative
  match x.value?, y.value? with
  | some a, some b => ofRat (a * b) negative
  | _, _ =>
    if x.isNaN || y.isNaN || x.pattern = 0 || y.pattern = 0 then nan else infinity negative

/-- The quotient, rounded to nearest. -/
def div (x y : Binary64) : Binary64 :=
  let negative := x.negative != y.negative
  if x.isNaN || y.isNaN then nan
  else match x.value?, y.value? with
  | some a, some b =>
    if b.num ≠ 0 then ofRat (a / b) negative
    else if a.num ≠ 0 then infinity negative else nan
  | some _, none => zero negative
  | none, some _ => infinity negative
  | none, none => nan

/-- The whole part of the square root of `n`, given its bits from place `k` on. -/
def sqrtFrom (n : Nat) : (k root : Nat) → Nat
  | 0, root => root
  | k + 1, root =>
    let next := root + Nat.pow 2 k
    sqrtFrom n k (if next * next ≤ n then next else root)

/-- The whole part of the square root of a natural. -/
def floorSqrt (n : Nat) : Nat := sqrtFrom n (n.log2 / 2 + 1) 0

theorem sqrtFrom_bounds {n k root : Nat} (low : root * root ≤ n)
    (high : n < (root + Nat.pow 2 k) * (root + Nat.pow 2 k)) :
    sqrtFrom n k root * sqrtFrom n k root ≤ n ∧
      n < (sqrtFrom n k root + 1) * (sqrtFrom n k root + 1) := by
  induction k generalizing root with
  | zero => exact ⟨low, high⟩
  | succ k ih =>
    have double : root + Nat.pow 2 (k + 1) = root + Nat.pow 2 k + Nat.pow 2 k := by
      have : Nat.pow 2 (k + 1) = Nat.pow 2 k * 2 := rfl
      omega
    rw [double] at high
    rw [sqrtFrom]
    by_cases h : (root + Nat.pow 2 k) * (root + Nat.pow 2 k) ≤ n
    · rw [if_pos h]
      exact ih h high
    · rw [if_neg h]
      exact ih low (Nat.lt_of_not_le h)

/-- The square root lies between its whole part and the next natural. -/
theorem floorSqrt_bounds (n : Nat) :
    floorSqrt n * floorSqrt n ≤ n ∧ n < (floorSqrt n + 1) * (floorSqrt n + 1) := by
  refine sqrtFrom_bounds (Nat.zero_le n) ?_
  have below : n < 2 ^ (n.log2 + 1) := Nat.lt_log2_self
  have : (2 : Nat) ^ (n.log2 + 1) ≤ 2 ^ (n.log2 / 2 + 1 + (n.log2 / 2 + 1)) :=
    Nat.pow_le_pow_right (by omega) (by omega)
  rw [Nat.zero_add]
  show n < 2 ^ (n.log2 / 2 + 1) * 2 ^ (n.log2 / 2 + 1)
  rw [← Nat.pow_add]
  omega

/-- The square root, rounded to nearest. -/
def sqrt (x : Binary64) : Binary64 :=
  if x.isNaN || x.pattern = 0 then x
  else if x.negative then nan
  else if x.isInfinite then x
  else
    let square := unitsOf x.pattern * unitsPerOne
    let root := floorSqrt square
    let halves := if root * root = square then 2 * root else 2 * root + 1
    ofPattern false (roundMagnitude halves (2 * unitsPerOne))

/-- The whole part, stopped at `0` and at `2⁶⁴ - 1`.  What is not a number
gives `0`. -/
def toUInt64 (x : Binary64) : UInt64 :=
  if x.isNaN || x.negative then 0
  else UInt64.ofNat (min (unitsOf x.pattern / unitsPerOne) (UInt64.size - 1))

end VipHost.Binary64
