import Mathlib.Algebra.Order.Field.Power
import Mathlib.Tactic.FieldSimp
import Mathlib.Tactic.Linarith
import Mathlib.Tactic.Positivity
import VipHost.Binary64.Decimal
import VipHost.Proofs.ExactDoubles

/-!
# Rounding to the nearest double

Rounding is said without a formula: `RoundsTo` asks for the nearest of all patterns, and of two
that are equally near for the even one.  No number rounds to two patterns (`RoundsTo.unique`), so
that says which one it is.

The pattern of a quotient has its whole part after a shift, or one more.  Those two patterns are
neighbours with the quotient between them, and `roundHalfEven` picks the right one
(`roundsTo_shifted`).  A decimal is such a quotient, or it is far outside the range of doubles,
where the answer does not need the power of ten (`Nearest.ofDecimal`).
-/

namespace VipHost.Binary64

/-! ## The nearest pattern -/

/-- How far a pattern is from a number of units. -/
def distance (u : Rat) (p : Nat) : Rat := |(unitsOf p : Rat) - u|

/-- The pattern that a number of units rounds to: the nearest, and of two that are equally near the
even one.  The pattern of infinity counts as the power of two after the greatest double. -/
structure RoundsTo (u : Rat) (p : Nat) : Prop where
  atMost : p ≤ infinityPattern
  nearest : ∀ q ≤ infinityPattern, distance u p ≤ distance u q
  even : ∀ q ≤ infinityPattern, q ≠ p → distance u q = distance u p → p % 2 = 0

theorem distance_of_le {u : Rat} {p : Nat} (below : (unitsOf p : Rat) ≤ u) :
    distance u p = u - unitsOf p := by
  rw [distance, abs_of_nonpos (sub_nonpos.mpr below), neg_sub]

theorem distance_of_ge {u : Rat} {p : Nat} (above : u ≤ (unitsOf p : Rat)) :
    distance u p = unitsOf p - u := by
  rw [distance, abs_of_nonneg (sub_nonneg.mpr above)]

theorem cast_unitsOf_lt {p q : Nat} (less : p < q) : (unitsOf p : Rat) < unitsOf q :=
  Nat.cast_lt.mpr (unitsOf_strictMono less)

theorem cast_unitsOf_le {p q : Nat} (less : p ≤ q) : (unitsOf p : Rat) ≤ unitsOf q :=
  Nat.cast_le.mpr (unitsOf_strictMono.monotone less)

section

variable {u : Rat} {a : Nat}

/-- The lower of two neighbours. -/
theorem roundsTo_lower (atMost : a < infinityPattern) (low : (unitsOf a : Rat) ≤ u)
    (half : 2 * u < unitsOf a + unitsOf (a + 1) ∨
      2 * u = unitsOf a + unitsOf (a + 1) ∧ a % 2 = 0) : RoundsTo u a := by
  have least : 2 * u ≤ unitsOf a + unitsOf (a + 1) := half.elim le_of_lt fun tie => tie.1.le
  have further (q : Nat) (other : q ≠ a) : distance u a ≤ distance u q ∧
      (distance u q = distance u a → 2 * u = unitsOf a + unitsOf (a + 1)) := by
    rw [distance_of_le low]
    obtain below | above := Nat.lt_or_gt_of_ne other
    · have less := cast_unitsOf_lt below
      rw [distance_of_le (by linarith)]
      exact ⟨by linarith, fun same => by linarith⟩
    · have more : (unitsOf (a + 1) : Rat) ≤ unitsOf q := cast_unitsOf_le above
      rw [distance_of_ge (by linarith)]
      exact ⟨by linarith, fun same => by linarith⟩
  refine ⟨atMost.le, fun q _ => ?_, fun q _ other same => ?_⟩
  · obtain rfl | other := eq_or_ne q a
    · exact le_rfl
    · exact (further q other).1
  · have tie := (further q other).2 same
    obtain less | ⟨_, even⟩ := half
    · exact absurd tie less.ne
    · exact even

/-- The upper of two neighbours. -/
theorem roundsTo_upper (atMost : a < infinityPattern) (high : u ≤ (unitsOf (a + 1) : Rat))
    (half : (unitsOf a : Rat) + unitsOf (a + 1) < 2 * u ∨
      (unitsOf a : Rat) + unitsOf (a + 1) = 2 * u ∧ a % 2 = 1) : RoundsTo u (a + 1) := by
  have least : (unitsOf a : Rat) + unitsOf (a + 1) ≤ 2 * u :=
    half.elim le_of_lt fun tie => tie.1.le
  have further (q : Nat) (other : q ≠ a + 1) : distance u (a + 1) ≤ distance u q ∧
      (distance u q = distance u (a + 1) → (unitsOf a : Rat) + unitsOf (a + 1) = 2 * u) := by
    rw [distance_of_ge high]
    obtain below | above := Nat.lt_or_gt_of_ne other
    · have less : (unitsOf q : Rat) ≤ unitsOf a := cast_unitsOf_le (by omega)
      rw [distance_of_le (by linarith)]
      exact ⟨by linarith, fun same => by linarith⟩
    · have more := cast_unitsOf_lt above
      rw [distance_of_ge (by linarith)]
      exact ⟨by linarith, fun same => by linarith⟩
  refine ⟨atMost, fun q _ => ?_, fun q _ other same => ?_⟩
  · obtain rfl | other := eq_or_ne q (a + 1)
    · exact le_rfl
    · exact (further q other).1
  · have tie := (further q other).2 same
    obtain less | ⟨_, odd⟩ := half
    · exact absurd tie less.ne
    · omega

theorem roundsTo_infinityPattern (high : (unitsOf infinityPattern : Rat) ≤ u) :
    RoundsTo u infinityPattern := by
  refine ⟨le_rfl, fun q atMost => ?_, fun q atMost other same => ?_⟩
  · have less := cast_unitsOf_le atMost
    rw [distance_of_le high, distance_of_le (by linarith)]
    linarith
  · have less := cast_unitsOf_lt (lt_of_le_of_ne atMost other)
    rw [distance_of_le high, distance_of_le (by linarith)] at same
    linarith

/-- No number rounds to two patterns. -/
theorem RoundsTo.unique {p q : Nat} (hp : RoundsTo u p) (hq : RoundsTo u q) : p = q := by
  by_contra differ
  wlog less : p < q generalizing p q
  · exact this hq hp (Ne.symm differ) (by omega)
  have same : distance u p = distance u q :=
    le_antisymm (hp.nearest q hq.atMost) (hq.nearest p hp.atMost)
  have evenLow := hp.even q hq.atMost (Ne.symm differ) same.symm
  have evenHigh := hq.even p hp.atMost differ same
  -- both are even, so there is a pattern between them, which is nearer
  have first := cast_unitsOf_lt (show p < p + 1 by omega)
  have second := cast_unitsOf_lt (show p + 1 < q by omega)
  have least := hp.nearest (p + 1) (by have := hq.atMost; omega)
  have above : (unitsOf p : Rat) ≤ u := by
    by_contra above
    rw [not_le] at above
    rw [distance_of_ge above.le, distance_of_ge (by linarith)] at same
    linarith
  have below : u ≤ (unitsOf q : Rat) := by
    by_contra below
    rw [not_le] at below
    rw [distance_of_le above, distance_of_le below.le] at same
    linarith
  rw [distance_of_le above, distance_of_ge below] at same
  rw [distance_of_le above] at least
  obtain low | high := le_total (unitsOf (p + 1) : Rat) u
  · rw [distance_of_le low] at least
    linarith
  · rw [distance_of_ge high] at least
    linarith

end

/-! ## Rounding a quotient -/

/-- As `unitsOf_shifted`, with the carry into the next exponent. -/
theorem unitsOf_shifted_of_le {m s : Nat} (places : m ≤ 2 ^ 53) (normal : s = 0 ∨ 2 ^ 52 ≤ m) :
    unitsOf (s * exponentWeight + m) = m * 2 ^ s := by
  obtain less | rfl := Nat.lt_or_eq_of_le places
  · exact unitsOf_shifted less normal
  · have carried : s * exponentWeight + 2 ^ 53 = (s + 1) * exponentWeight + 2 ^ 52 := by
      rw [show exponentWeight = 2 ^ 52 from rfl]
      ring
    rw [carried, unitsOf_shifted (by decide) (.inr le_rfl)]
    ring

/-- How a quotient is rounded: down, up, or from the middle to the even one. -/
theorem roundHalfEven_cases (num den : Nat) :
    2 * (num % den) < den ∧ roundHalfEven num den = num / den ∨
      den < 2 * (num % den) ∧ roundHalfEven num den = num / den + 1 ∨
      2 * (num % den) = den ∧ roundHalfEven num den = num / den + num / den % 2 := by
  unfold roundHalfEven
  dsimp only
  split
  next less => exact .inl ⟨less, rfl⟩
  next noLess =>
    split
    next more => exact .inr (.inl ⟨more, rfl⟩)
    next noMore => exact .inr (.inr ⟨by omega, rfl⟩)

/-- The places of a quotient after its shift. -/
theorem shifted_places (units den : Nat) :
    units / (den * 2 ^ ((units / den).log2 - 52)) < 2 ^ 53 ∧
      ((units / den).log2 - 52 = 0 ∨ 2 ^ 52 ≤ units / (den * 2 ^ ((units / den).log2 - 52))) := by
  rw [← Nat.div_div_eq_div_mul]
  generalize units / den = whole
  have positive := Nat.two_pow_pos (whole.log2 - 52)
  constructor
  · rw [Nat.div_lt_iff_lt_mul positive, ← Nat.pow_add]
    exact Nat.lt_of_lt_of_le Nat.lt_log2_self (Nat.pow_le_pow_right (by decide) (by omega))
  · by_cases small : whole.log2 ≤ 52
    · exact .inl (by omega)
    · have nonzero : whole ≠ 0 := by
        rintro rfl
        exact small (by decide)
      have all : 52 + (whole.log2 - 52) = whole.log2 := by omega
      rw [Nat.le_div_iff_mul_le positive, ← Nat.pow_add, all]
      exact .inr (Nat.log2_self_le nonzero)

/-- A number of units, given as a quotient, rounds to the shifted and rounded quotient. -/
theorem roundsTo_shifted (units : Nat) {den s : Nat} (positive : 0 < den)
    (places : units / (den * 2 ^ s) < 2 ^ 53) (normal : s = 0 ∨ 2 ^ 52 ≤ units / (den * 2 ^ s)) :
    RoundsTo (units / den)
      (min (s * exponentWeight + roundHalfEven units (den * 2 ^ s)) infinityPattern) := by
  have parity (m : Nat) : (s * exponentWeight + m) % 2 = m % 2 := by
    rw [show exponentWeight = 2 ^ 52 from rfl]
    omega
  have rounding := roundHalfEven_cases units (den * 2 ^ s)
  have whole := Nat.div_add_mod units (den * 2 ^ s)
  have less : units % (den * 2 ^ s) < den * 2 ^ s :=
    Nat.mod_lt _ (Nat.mul_pos positive (Nat.two_pow_pos s))
  generalize units / (den * 2 ^ s) = m at places normal rounding whole
  generalize units % (den * 2 ^ s) = r at rounding whole less
  -- the quotient lies between the pattern of its whole part and the next one
  have lower : (unitsOf (s * exponentWeight + m) : Rat) = m * 2 ^ s := by
    exact_mod_cast unitsOf_shifted places normal
  have upper : (unitsOf (s * exponentWeight + m + 1) : Rat) = m * 2 ^ s + 2 ^ s := by
    have next : unitsOf (s * exponentWeight + (m + 1)) = (m + 1) * 2 ^ s :=
      unitsOf_shifted_of_le places (normal.imp_right fun least => by omega)
    rw [Nat.add_assoc, next]
    push_cast
    ring
  have denPositive : (0 : Rat) < den := by exact_mod_cast positive
  have parts : (units : Rat) / den = m * 2 ^ s + r / den := by
    rw [← whole]
    push_cast
    field_simp
  have below : (r : Rat) / den < 2 ^ s := by
    rw [div_lt_iff₀ denPositive, mul_comm]
    exact_mod_cast less
  have nonneg : (0 : Rat) ≤ r / den := by positivity
  have twice : 2 * ((r : Rat) / den) = (2 * r : Nat) / den := by
    push_cast
    ring
  by_cases finite : s * exponentWeight + m < infinityPattern
  · obtain ⟨low, rounded⟩ | ⟨high, rounded⟩ | ⟨tie, rounded⟩ := rounding
    · have half : 2 * ((r : Rat) / den) < 2 ^ s := by
        rw [twice, div_lt_iff₀ denPositive, mul_comm (2 ^ s)]
        exact_mod_cast low
      rw [rounded, Nat.min_eq_left finite.le]
      exact roundsTo_lower finite (by linarith) (.inl (by linarith))
    · have half : 2 ^ s < 2 * ((r : Rat) / den) := by
        rw [twice, lt_div_iff₀ denPositive, mul_comm (2 ^ s)]
        exact_mod_cast high
      rw [rounded, ← Nat.add_assoc, Nat.min_eq_left finite]
      exact roundsTo_upper finite (by linarith) (.inl (by linarith))
    · have half : 2 * ((r : Rat) / den) = 2 ^ s := by
        rw [twice, tie, div_eq_iff denPositive.ne', mul_comm (2 ^ s)]
        push_cast
        rfl
      obtain even | odd := Nat.mod_two_eq_zero_or_one m
      · rw [rounded, even, Nat.add_zero, Nat.min_eq_left finite.le]
        exact roundsTo_lower finite (by linarith) (.inr ⟨by linarith, (parity m).trans even⟩)
      · rw [rounded, odd, ← Nat.add_assoc, Nat.min_eq_left finite]
        exact roundsTo_upper finite (by linarith) (.inr ⟨by linarith, (parity m).trans odd⟩)
  · rw [Nat.min_eq_right (by omega)]
    apply roundsTo_infinityPattern
    have least := cast_unitsOf_le (Nat.not_lt.mp finite)
    linarith

/-- The pattern of a quotient is the one that the quotient rounds to. -/
theorem roundsTo_roundMagnitude (num : Nat) {den : Nat} (positive : 0 < den) :
    RoundsTo (num / den * unitsPerOne) (roundMagnitude num den) := by
  have rounds := shifted_places (num * unitsPerOne) den
  have quotient : (num : Rat) / den * unitsPerOne = (num * unitsPerOne : Nat) / den := by
    rw [Nat.cast_mul]
    ring
  rw [quotient]
  exact roundsTo_shifted _ positive rounds.1 rounds.2

/-! ## The nearest double -/

/-- The double nearest to a number, given by its sign and its magnitude.  A number too large for
every double has an infinity. -/
structure Nearest (x : Binary64) (negative : Bool) (magnitude : Rat) : Prop where
  sign : x.negative = negative
  pattern : RoundsTo (magnitude * unitsPerOne) x.pattern

/-- A double is known by its sign and its pattern. -/
theorem eq_of_pattern {x y : Binary64} (sign : x.negative = y.negative)
    (same : x.pattern = y.pattern) : x = y := by
  have weight : signWeight = 9223372036854775808 := rfl
  have bound := x.bits.toNat_lt
  have bound' := y.bits.toNat_lt
  simp only [negative, pattern, decide_eq_decide, weight] at sign same
  have bits : x.bits.toNat = y.bits.toNat := by omega
  cases x
  cases y
  exact congrArg Binary64.mk (UInt64.toNat_inj.mp bits)

namespace Nearest

variable {negative : Bool} {magnitude : Rat}

theorem unique {x y : Binary64} (hx : Nearest x negative magnitude)
    (hy : Nearest y negative magnitude) : x = y :=
  eq_of_pattern (hx.sign.trans hy.sign.symm) (hx.pattern.unique hy.pattern)

theorem ofPattern {p : Nat} (rounds : RoundsTo (magnitude * unitsPerOne) p) :
    Nearest (ofPattern negative p) negative magnitude := by
  have small : p < signWeight := Nat.lt_of_le_of_lt rounds.atMost infinityPattern_lt
  exact ⟨negative_ofPattern small, by rwa [pattern_ofPattern small]⟩

theorem quotient (negative : Bool) (num : Nat) {den : Nat} (positive : 0 < den) :
    Nearest (.ofPattern negative (roundMagnitude num den)) negative (num / den) :=
  ofPattern (roundsTo_roundMagnitude num positive)

theorem ofInt (n : Int) : Nearest (.ofInt n) (decide (n < 0)) (n.natAbs : Rat) := by
  have whole := quotient (decide (n < 0)) n.natAbs Nat.one_pos
  rwa [Nat.cast_one, div_one] at whole

/-- A magnitude below half the least positive double. -/
theorem zero (nonneg : 0 ≤ magnitude) (small : 2 * (magnitude * unitsPerOne) < 1) :
    Nearest (.zero negative) negative magnitude := by
  have none : (unitsOf 0 : Rat) = 0 := by rw [unitsOf, if_pos (by decide), Nat.cast_zero]
  have one : (unitsOf (0 + 1) : Rat) = 1 := by rw [unitsOf, if_pos (by decide), Nat.cast_one]
  refine ofPattern (roundsTo_lower (by decide) ?_ (.inl ?_))
  · rw [none]
    exact mul_nonneg nonneg (Nat.cast_nonneg _)
  · rwa [none, one, zero_add]

/-- A magnitude from the power of two after the greatest double on. -/
theorem infinity (large : (2 : Rat) ^ 1024 ≤ magnitude) :
    Nearest (.infinity negative) negative magnitude := by
  have top : unitsOf infinityPattern = 2 ^ 1024 * unitsPerOne := by decide +kernel
  have scaled (k : Nat) : ((2 ^ 1024 * k : Nat) : Rat) ≤ magnitude * k := by
    rw [Nat.cast_mul, Nat.cast_pow, Nat.cast_two]
    exact mul_le_mul_of_nonneg_right large (Nat.cast_nonneg k)
  have least := scaled unitsPerOne
  rw [← top] at least
  exact ofPattern (roundsTo_infinityPattern least)

end Nearest

/-! ## Numbers in decimal -/

/-- The number of its digits says how large a natural is. -/
theorem digitCount_bounds {n : Nat} (nonzero : n ≠ 0) :
    0 < digitCount n ∧ n < 10 ^ digitCount n ∧ 10 ^ (digitCount n - 1) ≤ n := by
  have some : 0 < digitCount n := List.length_pos_iff.mpr Nat.toDigits_ne_nil
  refine ⟨some, (Nat.length_toDigits_le_iff (by decide) some).mp le_rfl, ?_⟩
  obtain one | more : digitCount n - 1 = 0 ∨ 0 < digitCount n - 1 := by omega
  · rw [one]
    omega
  · by_contra less
    have few := (Nat.length_toDigits_le_iff (by decide) more).mpr (Nat.not_le.mp less)
    rw [← digitCount] at few
    omega

theorem two_pow_le_ten_pow {m n : Nat} (le : 2 ^ m ≤ 10 ^ n) : (2 : Rat) ^ m ≤ 10 ^ n := by
  have cast := (Nat.cast_le (α := Rat)).mpr le
  rwa [Nat.cast_pow, Nat.cast_pow, Nat.cast_ofNat, Nat.cast_ofNat] at cast

theorem twice_mul_lt_one {q : Rat} {k n : Nat} (small : q ≤ 10 ^ (-(n : Int)))
    (bound : 2 * k < 10 ^ n) : 2 * (q * k) < 1 := by
  have cast := (Nat.cast_lt (α := Rat)).mpr bound
  rw [Nat.cast_mul, Nat.cast_pow, Nat.cast_ofNat, Nat.cast_ofNat] at cast
  have positive : (0 : Rat) < 10 ^ n := by positivity
  calc 2 * (q * k) ≤ 2 * (10 ^ (-(n : Int)) * k) := by
        have := mul_le_mul_of_nonneg_right small (Nat.cast_nonneg (α := Rat) k)
        linarith
    _ = 2 * k / 10 ^ n := by
        rw [zpow_neg, zpow_natCast]
        ring
    _ < 1 := (div_lt_one positive).mpr cast

/-- The number of its digits says how large a decimal is. -/
theorem decimal_bounds {digits : Nat} (nonzero : digits ≠ 0) (exponent : Int) :
    (digits : Rat) * 10 ^ exponent ≤ 10 ^ (exponent + digitCount digits) ∧
      (10 : Rat) ^ (exponent + (digitCount digits - 1 : Nat)) ≤ digits * 10 ^ exponent := by
  obtain ⟨_, below, above⟩ := digitCount_bounds nonzero
  have positive : (0 : Rat) < 10 ^ exponent := by positivity
  have shifted (k : Nat) : (10 : Rat) ^ (exponent + k) = 10 ^ k * 10 ^ exponent := by
    rw [zpow_add₀ (by norm_num), zpow_natCast, mul_comm]
  rw [shifted, shifted]
  constructor
  · apply mul_le_mul_of_nonneg_right _ positive.le
    exact_mod_cast below.le
  · apply mul_le_mul_of_nonneg_right _ positive.le
    exact_mod_cast above

/-- The double read from a decimal is the nearest, also where the power is not written out. -/
theorem Nearest.ofDecimal (negative : Bool) (digits : Nat) (exponent : Int) :
    Nearest (.ofDecimal negative digits exponent) negative (digits * 10 ^ exponent) := by
  have ten : (1 : Rat) ≤ 10 := by norm_num
  unfold Binary64.ofDecimal
  dsimp only
  obtain rfl | nonzero := Nat.eq_zero_or_pos digits
  · rw [if_pos (.inl rfl)]
    rw [Nat.cast_zero, zero_mul]
    exact Nearest.zero le_rfl (by rw [zero_mul, mul_zero]; exact one_pos)
  have some := (digitCount_bounds nonzero.ne').1
  obtain ⟨atMost, atLeast⟩ := decimal_bounds nonzero.ne' exponent
  split
  next tiny =>
    have least : exponent + digitCount digits ≤ -331 := by omega
    have small : (digits : Rat) * 10 ^ exponent ≤ 10 ^ (-((331 : Nat) : Int)) :=
      atMost.trans (zpow_le_zpow_right₀ ten least)
    exact Nearest.zero (by positivity) (twice_mul_lt_one small (by decide +kernel))
  next =>
    split
    next huge =>
      have least : 330 ≤ exponent + (digitCount digits - 1 : Nat) := by omega
      refine Nearest.infinity ?_
      calc (2 : Rat) ^ 1024 ≤ 10 ^ 330 := two_pow_le_ten_pow (by decide +kernel)
        _ = 10 ^ (330 : Int) := (zpow_ofNat 10 330).symm
        _ ≤ 10 ^ (exponent + (digitCount digits - 1 : Nat)) := zpow_le_zpow_right₀ ten least
        _ ≤ digits * 10 ^ exponent := atLeast
    next =>
      split
      next whole =>
        have power : (10 : Rat) ^ exponent = 10 ^ exponent.toNat := by
          rw [← zpow_natCast, Int.toNat_of_nonneg whole]
        have near := Nearest.quotient negative
          (digits * Nat.pow 10 exponent.toNat) Nat.one_pos
        rw [power]
        simpa using near
      next fraction =>
        have power : (10 : Rat) ^ exponent = (10 ^ (-exponent).toNat)⁻¹ := by
          rw [← zpow_natCast, Int.toNat_of_nonneg (by omega), zpow_neg, inv_inv]
        have near := Nearest.quotient negative digits
          (Nat.pow_pos (n := (-exponent).toNat) (show 0 < 10 by decide))
        rw [power, ← div_eq_mul_inv]
        simpa using near

end VipHost.Binary64
