import Mathlib.Data.Rat.Floor
import Mathlib.Tactic.Ring
import VipHost.Binary64.Arithmetic

/-!
# Doubles as exact numbers

What the operations on doubles come to in numbers.  The units of a double are a
signed whole number (`Binary64.units`), strictly increasing with its pattern
(`unitsOf_strictMono`); so the order of doubles is the order of their numbers
(`le_iff_of_value?`).  Rounding gives back every number that a double can stand
for (`unitsOf_roundMagnitude`), and a whole number below `2⁵³` is one of these.
So sums and products of whole numbers are exact as long as they stay below it
(`value?_ofRat_intCast`).

`toUInt64` drops the fraction and is capped (`toNat_toUInt64`).
-/

namespace VipHost.Binary64

/-! ## Signs and patterns -/

theorem toNat_bits_ofPattern {negative : Bool} {p : Nat} (small : p < signWeight) :
    (ofPattern negative p).bits.toNat = if negative then signWeight + p else p := by
  have weight : signWeight = 9223372036854775808 := rfl
  rw [ofPattern, UInt64.toNat_ofNat']
  cases negative with
  | true => rw [if_pos rfl]; omega
  | false => rw [if_neg (by simp)]; omega

theorem pattern_ofPattern {negative : Bool} {p : Nat} (small : p < signWeight) :
    (ofPattern negative p).pattern = p := by
  rw [pattern, toNat_bits_ofPattern small]
  cases negative with
  | true => rw [if_pos rfl, Nat.add_mod_left, Nat.mod_eq_of_lt small]
  | false => rw [if_neg (by simp), Nat.mod_eq_of_lt small]

theorem negative_ofPattern {negative : Bool} {p : Nat} (small : p < signWeight) :
    (ofPattern negative p).negative = negative := by
  rw [Binary64.negative, toNat_bits_ofPattern small]
  cases negative with
  | true => simp
  | false => simpa using small

theorem infinityPattern_lt : infinityPattern < signWeight := by decide

/-! ## Units -/

/-- The units of a pattern by its exponent and its fraction. -/
theorem unitsOf_normal (e : Nat) {f : Nat} (fraction : f < exponentWeight) :
    unitsOf ((e + 1) * exponentWeight + f) = (exponentWeight + f) * 2 ^ e := by
  have above : ¬ (e + 1) * exponentWeight + f < exponentWeight := by
    rw [Nat.add_mul]
    omega
  have exponent : ((e + 1) * exponentWeight + f) / exponentWeight = e + 1 := by
    rw [Nat.add_comm, Nat.add_mul_div_right _ _ (by decide), Nat.div_eq_of_lt fraction,
      Nat.zero_add]
  have rest : ((e + 1) * exponentWeight + f) % exponentWeight = f := by
    rw [Nat.add_comm, Nat.add_mul_mod_self_right, Nat.mod_eq_of_lt fraction]
  rw [unitsOf, if_neg above, exponent, rest, Nat.add_sub_cancel]
  rfl

/-- A pattern is subnormal, or has an exponent and a fraction. -/
theorem pattern_cases (p : Nat) :
    p < exponentWeight ∨ ∃ e f, f < exponentWeight ∧ p = (e + 1) * exponentWeight + f := by
  by_cases subnormal : p < exponentWeight
  · exact .inl subnormal
  · have positive : 0 < exponentWeight := by decide
    have one : 1 ≤ p / exponentWeight := by
      rw [Nat.le_div_iff_mul_le positive]
      omega
    refine .inr ⟨p / exponentWeight - 1, p % exponentWeight, Nat.mod_lt _ positive, ?_⟩
    rw [Nat.sub_add_cancel one, Nat.mul_comm]
    exact (Nat.div_add_mod p exponentWeight).symm

theorem exponentWeight_le_unitsOf (e : Nat) {f : Nat} (fraction : f < exponentWeight) :
    exponentWeight ≤ unitsOf ((e + 1) * exponentWeight + f) := by
  rw [unitsOf_normal e fraction]
  calc exponentWeight ≤ exponentWeight + f := Nat.le_add_right _ _
    _ ≤ (exponentWeight + f) * 2 ^ e := Nat.le_mul_of_pos_right _ (Nat.two_pow_pos e)

/-- Greater patterns have more units. -/
theorem unitsOf_strictMono : StrictMono unitsOf := by
  have weight : exponentWeight = 2 ^ 52 := rfl
  intro p q less
  obtain low | ⟨e, f, fraction, rfl⟩ := pattern_cases p
  · have same : unitsOf p = p := if_pos low
    rw [same]
    obtain low' | ⟨e', f', fraction', rfl⟩ := pattern_cases q
    · rw [unitsOf, if_pos low']
      exact less
    · exact Nat.lt_of_lt_of_le low (exponentWeight_le_unitsOf e' fraction')
  · obtain low' | ⟨e', f', fraction', rfl⟩ := pattern_cases q
    · rw [Nat.add_mul] at less
      omega
    · rw [unitsOf_normal e fraction, unitsOf_normal e' fraction']
      obtain same | lower : e = e' ∨ e < e' := by
        rw [weight] at less fraction fraction'
        omega
      · subst same
        exact Nat.mul_lt_mul_of_pos_right (by omega) (Nat.two_pow_pos e)
      · -- a fraction never makes up for a lower exponent
        calc (exponentWeight + f) * 2 ^ e
            < (exponentWeight + exponentWeight) * 2 ^ e :=
              Nat.mul_lt_mul_of_pos_right (by omega) (Nat.two_pow_pos e)
          _ = exponentWeight * 2 ^ (e + 1) := by ring
          _ ≤ exponentWeight * 2 ^ e' :=
              Nat.mul_le_mul_left _ (Nat.pow_le_pow_right (by omega) lower)
          _ ≤ (exponentWeight + f') * 2 ^ e' := Nat.mul_le_mul_right _ (by omega)

/-! ## Numbers -/

/-- The units of a double, with its sign. -/
def units (x : Binary64) : Int :=
  if x.negative then -(unitsOf x.pattern : Int) else unitsOf x.pattern

/-- One has a power of two of units. -/
theorem unitsPerOne_eq : ∃ k, k = 1074 ∧ unitsPerOne = 2 ^ k :=
  ⟨unitsPerOne.log2, by decide +kernel, by decide +kernel⟩

theorem unitsPerOne_pos : 0 < unitsPerOne := by
  obtain ⟨k, _, power⟩ := unitsPerOne_eq
  rw [power]
  exact Nat.two_pow_pos k

/-- The number of a finite double is its units. -/
theorem value?_of_isFinite {x : Binary64} (finite : x.isFinite = true) :
    x.value? = some ((x.units : Rat) / (unitsPerOne : Rat)) := by
  rw [value?, if_pos finite, units]
  split
  · rw [Rat.mkRat_eq_div]
    push_cast
    rw [neg_div]
  · rw [Rat.mkRat_eq_div]

theorem value?_eq_none {x : Binary64} (infinite : x.isFinite = false) : x.value? = none := by
  rw [value?, infinite]
  rfl

/-- A double with a number is finite, and the number is its units. -/
theorem of_value? {x : Binary64} {q : Rat} (number : x.value? = some q) :
    x.isFinite = true ∧ q = (x.units : Rat) / (unitsPerOne : Rat) := by
  cases finite : x.isFinite with
  | true =>
    rw [value?_of_isFinite finite] at number
    exact ⟨rfl, (Option.some.inj number).symm⟩
  | false =>
    rw [value?_eq_none finite] at number
    cases number

theorem not_isNaN_of_isFinite {x : Binary64} (finite : x.isFinite = true) : x.isNaN = false := by
  simp only [isFinite, isNaN, decide_eq_true_eq, decide_eq_false_iff_not] at finite ⊢
  omega

/-- Doubles are ordered as their units are. -/
theorem orderKey_le_iff (x y : Binary64) : x.orderKey ≤ y.orderKey ↔ x.units ≤ y.units := by
  have mono : unitsOf x.pattern ≤ unitsOf y.pattern ↔ x.pattern ≤ y.pattern :=
    unitsOf_strictMono.le_iff_le
  have mono' : unitsOf y.pattern ≤ unitsOf x.pattern ↔ y.pattern ≤ x.pattern :=
    unitsOf_strictMono.le_iff_le
  have zero : unitsOf x.pattern ≤ 0 ↔ x.pattern ≤ 0 := unitsOf_strictMono.le_iff_le (b := 0)
  have zero' : unitsOf y.pattern ≤ 0 ↔ y.pattern ≤ 0 := unitsOf_strictMono.le_iff_le (b := 0)
  unfold orderKey units
  cases x.negative with
  | false =>
    cases y.negative with
    | false => simpa using mono.symm
    | true =>
      simp only [Bool.false_eq_true, if_false, if_true]
      omega
  | true =>
    cases y.negative with
    | false =>
      simp only [Bool.false_eq_true, if_false, if_true]
      omega
    | true => simpa using mono'.symm

/-- Finite doubles are ordered as their numbers are. -/
theorem le_iff_of_value? {x y : Binary64} {a b : Rat} (hx : x.value? = some a)
    (hy : y.value? = some b) : x.le y = true ↔ a ≤ b := by
  obtain ⟨finite, rfl⟩ := of_value? hx
  obtain ⟨finite', rfl⟩ := of_value? hy
  have positive : (0 : Rat) < unitsPerOne := by exact_mod_cast unitsPerOne_pos
  rw [div_le_div_iff_of_pos_right positive, Int.cast_le, ← orderKey_le_iff, le,
    not_isNaN_of_isFinite finite, not_isNaN_of_isFinite finite']
  simp

theorem lt_iff_of_value? {x y : Binary64} {a b : Rat} (hx : x.value? = some a)
    (hy : y.value? = some b) : x.lt y = true ↔ a < b := by
  obtain ⟨finite, _⟩ := of_value? hx
  obtain ⟨finite', _⟩ := of_value? hy
  have back := le_iff_of_value? hy hx
  simp only [le, not_isNaN_of_isFinite finite, not_isNaN_of_isFinite finite', Bool.not_false,
    Bool.true_and, decide_eq_true_eq] at back
  rw [← not_le, ← back]
  simp [lt, not_isNaN_of_isFinite finite, not_isNaN_of_isFinite finite']

theorem sameNumber_iff_of_value? {x y : Binary64} {a b : Rat} (hx : x.value? = some a)
    (hy : y.value? = some b) : x.sameNumber y = true ↔ a = b := by
  rw [sameNumber, Bool.and_eq_true, le_iff_of_value? hx hy, le_iff_of_value? hy hx]
  exact le_antisymm_iff.symm

/-! ## Exact rounding -/

/-- What has at most 53 binary places stays itself, as a pattern that was shifted by
the others. -/
theorem unitsOf_shifted {m s : Nat} (places : m < 2 ^ 53) (normal : s = 0 ∨ 2 ^ 52 ≤ m) :
    unitsOf (s * exponentWeight + m) = m * 2 ^ s := by
  have weight : exponentWeight = 2 ^ 52 := rfl
  by_cases subnormal : m < exponentWeight
  · obtain rfl : s = 0 := by omega
    rw [Nat.zero_mul, Nat.zero_add, unitsOf, if_pos subnormal, Nat.pow_zero, Nat.mul_one]
  · obtain ⟨f, rfl⟩ := Nat.exists_eq_add_of_le (Nat.not_lt.mp subnormal)
    have carried : s * exponentWeight + (exponentWeight + f) = (s + 1) * exponentWeight + f := by
      ring
    rw [carried, unitsOf_normal s (by omega)]

theorem roundHalfEven_mul {m d : Nat} (positive : 0 < d) : roundHalfEven (m * d) d = m := by
  rw [roundHalfEven, Nat.mul_mod_left, Nat.mul_zero, if_pos positive,
    Nat.mul_div_cancel m positive]

/-- Rounding gives back what has at most 53 binary places. -/
theorem unitsOf_roundMagnitude {num den m s : Nat} (positive : 0 < den)
    (exact : num * unitsPerOne = m * 2 ^ s * den) (places : m < 2 ^ 53)
    (normal : s = 0 ∨ 2 ^ 52 ≤ m) (small : s < 2046) :
    unitsOf (roundMagnitude num den) = m * 2 ^ s ∧ roundMagnitude num den < infinityPattern := by
  have weight : exponentWeight = 2 ^ 52 := rfl
  have top : infinityPattern = 2047 * exponentWeight := rfl
  have shift : (m * 2 ^ s).log2 - 52 = s := by
    obtain rfl | least := normal
    · rw [Nat.pow_zero, Nat.mul_one]
      obtain rfl | nonzero := Nat.eq_zero_or_pos m
      · rfl
      · have := (Nat.log2_lt (by omega)).mpr places
        omega
    · have exponent : (m * 2 ^ s).log2 = 52 + s := by
        apply (Nat.log2_eq_iff (Nat.mul_ne_zero (by omega) (Nat.two_pow_pos s).ne')).mpr
        constructor
        · rw [Nat.pow_add]
          exact Nat.mul_le_mul_right _ least
        · rw [Nat.add_right_comm, Nat.pow_add]
          exact Nat.mul_lt_mul_of_pos_right places (Nat.two_pow_pos s)
      omega
  have rounded : roundHalfEven (m * 2 ^ s * den) (den * Nat.pow 2 s) = m := by
    have whole : m * 2 ^ s * den = m * (den * Nat.pow 2 s) := by
      show m * 2 ^ s * den = m * (den * 2 ^ s)
      ring
    rw [whole]
    exact roundHalfEven_mul (Nat.mul_pos positive (Nat.two_pow_pos s))
  have below : s * exponentWeight + m < infinityPattern := by
    rw [top, weight]
    omega
  have rounding : roundMagnitude num den = s * exponentWeight + m := by
    rw [roundMagnitude, exact, Nat.mul_div_cancel _ positive, shift, rounded]
    exact Nat.min_eq_left (Nat.le_of_lt below)
  rw [rounding]
  exact ⟨unitsOf_shifted places normal, below⟩

/-- Whole numbers below `2⁵³` are not rounded. -/
theorem unitsOf_roundMagnitude_natural {n : Nat} (small : n < 2 ^ 53) :
    unitsOf (roundMagnitude n 1) = n * unitsPerOne ∧ roundMagnitude n 1 < infinityPattern := by
  obtain ⟨k, large, scale⟩ := unitsPerOne_eq
  -- the number is shifted up to 53 places, and by so much less to its units
  let up := 52 - n.log2
  have split : n * unitsPerOne = n * 2 ^ up * 2 ^ (k - up) := by
    have all : up + (k - up) = k := by omega
    rw [scale, Nat.mul_assoc, ← Nat.pow_add, all]
  obtain rfl | nonzero := Nat.eq_zero_or_pos n
  · refine unitsOf_roundMagnitude (m := 0) (s := 0) Nat.one_pos ?_ (by decide) (.inl rfl) (by omega)
      |>.imp_left fun same => ?_
    · simp
    · rw [same]
      simp
  · have log : n.log2 < 53 := (Nat.log2_lt (by omega)).mpr small
    have places : n * 2 ^ up < 2 ^ 53 := by
      calc n * 2 ^ up < 2 ^ (n.log2 + 1) * 2 ^ up :=
            Nat.mul_lt_mul_of_pos_right Nat.lt_log2_self (Nat.two_pow_pos up)
        _ = 2 ^ 53 := by
            have all : n.log2 + 1 + up = 53 := by omega
            rw [← Nat.pow_add, all]
    have normal : 2 ^ 52 ≤ n * 2 ^ up := by
      calc 2 ^ 52 = 2 ^ n.log2 * 2 ^ up := by
            have all : n.log2 + up = 52 := by omega
            rw [← Nat.pow_add, all]
        _ ≤ n * 2 ^ up := Nat.mul_le_mul_right _ (Nat.log2_self_le (by omega))
    rw [split]
    exact unitsOf_roundMagnitude Nat.one_pos (by rw [Nat.mul_one, split]) places (.inr normal)
      (by omega)

/-! ## Whole numbers -/

theorem value?_ofPattern {p : Nat} (finite : p < infinityPattern) (negative : Bool) :
    (ofPattern negative p).value? =
      some ((if negative then -(unitsOf p : Rat) else unitsOf p) / unitsPerOne) := by
  have small : p < signWeight := Nat.lt_trans finite infinityPattern_lt
  have isFinite : (ofPattern negative p).isFinite = true := by
    rw [Binary64.isFinite, pattern_ofPattern small]
    exact decide_eq_true finite
  rw [value?_of_isFinite isFinite, units, negative_ofPattern small, pattern_ofPattern small]
  cases negative with
  | true => rw [if_pos rfl, if_pos rfl, Int.cast_neg, Int.cast_natCast]
  | false => rw [if_neg (by simp), if_neg (by simp), Int.cast_natCast]

/-- The double nearest to a whole number below `2⁵³` is that number. -/
theorem value?_ofRat_intCast {n : Int} (small : n.natAbs < 2 ^ 53) (negativeZero : Bool) :
    (ofRat (n : Rat) negativeZero).value? = some (n : Rat) := by
  obtain ⟨exact, finite⟩ := unitsOf_roundMagnitude_natural small
  have one : (unitsPerOne : Rat) ≠ 0 := by exact_mod_cast unitsPerOne_pos.ne'
  rw [ofRat, Rat.num_intCast, Rat.den_intCast, value?_ofPattern finite, exact]
  refine congrArg some ?_
  push_cast
  rw [← neg_mul, ← ite_mul, mul_div_assoc, div_self one, mul_one]
  obtain zero | nonzero := eq_or_ne n 0
  · subst zero
    simp
  · rw [if_neg nonzero]
    by_cases below : n < 0
    · rw [if_pos (decide_eq_true below)]
      have magnitude : (n.natAbs : Int) = -n := by omega
      rw [← Int.cast_natCast, magnitude, Int.cast_neg, neg_neg]
    · rw [if_neg (by simpa using below)]
      have magnitude : (n.natAbs : Int) = n := by omega
      rw [← Int.cast_natCast, magnitude]

theorem value?_ofInt {n : Int} (small : n.natAbs < 2 ^ 53) : (ofInt n).value? = some (n : Rat) := by
  have same : ofInt n = ofRat (n : Rat) false := by
    rw [ofInt, ofRat, Rat.num_intCast, Rat.den_intCast]
    split
    next zero => simp [zero]
    next => rfl
  rw [same]
  exact value?_ofRat_intCast small false

theorem ofNat_eq_ofInt (n : Nat) : ofNat n = ofInt n := rfl

/-! ## Operations -/

theorem value?_neg {x : Binary64} {a : Rat} (hx : x.value? = some a) :
    x.neg.value? = some (-a) := by
  obtain ⟨finite, rfl⟩ := of_value? hx
  have below : x.pattern < infinityPattern := of_decide_eq_true finite
  rw [neg, value?_ofPattern below, units]
  cases x.negative with
  | true => rw [if_neg (by simp), if_pos rfl, Int.cast_neg, Int.cast_natCast, neg_div, neg_neg]
  | false => rw [Bool.not_false, if_pos rfl, if_neg (by simp), Int.cast_natCast, neg_div]

theorem value?_abs {x : Binary64} {a : Rat} (hx : x.value? = some a) :
    x.abs.value? = some |a| := by
  obtain ⟨finite, rfl⟩ := of_value? hx
  have below : x.pattern < infinityPattern := of_decide_eq_true finite
  rw [abs, value?_ofPattern below, if_neg (by simp), abs_div, Nat.abs_cast, units]
  cases x.negative with
  | true => rw [if_pos rfl, Int.cast_neg, Int.cast_natCast, abs_neg, Nat.abs_cast]
  | false => rw [if_neg (by simp), Int.cast_natCast, Nat.abs_cast]

/-- A difference of numbers is the double nearest to it. -/
theorem sub_of_value? {x y : Binary64} {a b : Rat} (hx : x.value? = some a)
    (hy : y.value? = some b) : ∃ negativeZero, x.sub y = ofRat (a - b) negativeZero := by
  refine ⟨x.negative && y.neg.negative, ?_⟩
  rw [sub_eq_add_neg, sub, add, hx, value?_neg hy]

/-- A product of numbers is the double nearest to it. -/
theorem mul_of_value? {x y : Binary64} {a b : Rat} (hx : x.value? = some a)
    (hy : y.value? = some b) : ∃ negativeZero, x.mul y = ofRat (a * b) negativeZero := by
  refine ⟨x.negative != y.negative, ?_⟩
  rw [mul, hx, hy]

/-- A quotient of numbers is the double nearest to it. -/
theorem div_of_value? {x y : Binary64} {a b : Rat} (hx : x.value? = some a)
    (hy : y.value? = some b) (nonzero : b ≠ 0) :
    ∃ negativeZero, x.div y = ofRat (a / b) negativeZero := by
  obtain ⟨finite, _⟩ := of_value? hx
  obtain ⟨finite', _⟩ := of_value? hy
  refine ⟨x.negative != y.negative, ?_⟩
  rw [div, not_isNaN_of_isFinite finite, not_isNaN_of_isFinite finite', hx, hy]
  dsimp only
  rw [if_neg (by simp), if_pos (Rat.num_ne_zero.mpr nonzero)]

/-- A whole number of 64 bits in place of a double: the whole part, capped. -/
theorem toNat_toUInt64 {x : Binary64} {q : Rat} (hx : x.value? = some q) :
    x.toUInt64.toNat = min ⌊q⌋.toNat (2 ^ 64 - 1) := by
  obtain ⟨finite, rfl⟩ := of_value? hx
  have scale : (0 : Rat) < unitsPerOne := by exact_mod_cast unitsPerOne_pos
  rw [toUInt64, not_isNaN_of_isFinite finite, Bool.false_or, units]
  cases x.negative with
  | true =>
    have below : ((-(unitsOf x.pattern : Int) : Int) : Rat) / unitsPerOne ≤ 0 := by
      apply div_nonpos_of_nonpos_of_nonneg
      · exact_mod_cast neg_nonpos.mpr (Int.natCast_nonneg _)
      · exact scale.le
    have floor := Int.floor_le_floor below
    rw [Int.floor_zero] at floor
    rw [if_pos rfl, if_pos rfl, Int.toNat_of_nonpos floor]
    rfl
  | false =>
    have floor : ⌊((unitsOf x.pattern : Int) : Rat) / unitsPerOne⌋ =
        ((unitsOf x.pattern / unitsPerOne : Nat) : Int) := by
      rw [Int.cast_natCast, Rat.floor_natCast_div_natCast]
      rfl
    have cap : UInt64.size - 1 = 2 ^ 64 - 1 := rfl
    rw [if_neg (by simp), if_neg (by simp), floor, Int.toNat_natCast, UInt64.toNat_ofNat', cap]
    exact Nat.mod_eq_of_lt (Nat.lt_of_le_of_lt (Nat.min_le_right _ _) (by decide))

/-! ## Calculating with whole numbers -/

/-- A double stands for a whole number. -/
def IsWhole (x : Binary64) (n : Int) : Prop := x.value? = some (n : Rat)

namespace IsWhole

variable {x y : Binary64} {a b : Int}

theorem ofInt {n : Int} (small : n.natAbs < 2 ^ 53) : IsWhole (.ofInt n) n := value?_ofInt small

theorem ofNat {n : Nat} (small : n < 2 ^ 53) : IsWhole (.ofNat n) n := by
  rw [ofNat_eq_ofInt]
  exact ofInt (by rwa [Int.natAbs_natCast])

theorem zero (negative : Bool) : (Binary64.zero negative).IsWhole 0 := by
  have none : unitsOf 0 = 0 := if_pos (by decide)
  rw [IsWhole, Binary64.zero, value?_ofPattern (by decide), none, Nat.cast_zero, neg_zero, ite_self,
    zero_div, Int.cast_zero]

theorem abs (hx : x.IsWhole a) : x.abs.IsWhole |a| := by
  rw [IsWhole, value?_abs hx, Int.cast_abs]

theorem sub (hx : x.IsWhole a) (hy : y.IsWhole b) (small : (a - b).natAbs < 2 ^ 53) :
    (x.sub y).IsWhole (a - b) := by
  obtain ⟨z, difference⟩ := sub_of_value? hx hy
  rw [IsWhole, difference, ← Int.cast_sub, value?_ofRat_intCast small]

theorem mul (hx : x.IsWhole a) (hy : y.IsWhole b) (small : (a * b).natAbs < 2 ^ 53) :
    (x.mul y).IsWhole (a * b) := by
  obtain ⟨z, product⟩ := mul_of_value? hx hy
  rw [IsWhole, product, ← Int.cast_mul, value?_ofRat_intCast small]

/-- A division without a rest. -/
theorem div (hx : x.IsWhole (a * b)) (hy : y.IsWhole b) (nonzero : b ≠ 0)
    (small : a.natAbs < 2 ^ 53) : (x.div y).IsWhole a := by
  have nonzero' : (b : Rat) ≠ 0 := Int.cast_ne_zero.mpr nonzero
  obtain ⟨z, quotient⟩ := div_of_value? hx hy nonzero'
  rw [IsWhole, quotient, Int.cast_mul, mul_div_cancel_right₀ _ nonzero', value?_ofRat_intCast small]

theorem lt_eq_false (hx : x.IsWhole a) (hy : y.IsWhole b) (least : b ≤ a) : x.lt y = false := by
  rw [← Bool.not_eq_true, lt_iff_of_value? hx hy, Int.cast_lt]
  omega

theorem sameNumber_eq_false (hx : x.IsWhole a) (hy : y.IsWhole b) (differ : a ≠ b) :
    x.sameNumber y = false := by
  rw [← Bool.not_eq_true, sameNumber_iff_of_value? hx hy, Int.cast_inj]
  exact differ

theorem toNat_toUInt64 {n : Nat} (hx : x.IsWhole n) (small : n < 2 ^ 64) :
    x.toUInt64.toNat = n := by
  rw [Binary64.toNat_toUInt64 hx, Int.floor_intCast, Int.toNat_natCast]
  omega

end IsWhole

end VipHost.Binary64
