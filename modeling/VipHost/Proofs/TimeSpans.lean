import Mathlib.Tactic.Linarith
import VipHost.Proofs.ElapsedTotal

/-!
# No time is lost or invented

Between two stamps a clock hands out the whole microseconds.  If neither the difference of the
stamps nor its thousandfold is rounded, all that is missing is the fraction of a microsecond
(`lapse_of_exact`).  Over stamps that move forward the differences add up to the time from the
first to the last, so the times handed out and the fractions together are exactly that time
(`sum_times_add_fractions`).  The fractions are less than one microsecond for each stamp after the
first, and there are none between whole milliseconds.

The total is the sum of all times since the clock was new, capped once.  So it never falls.
-/

namespace VipHost

/-! ## Stamps that are numbers -/

/-- A time stamp that is finite. -/
structure FiniteStamp where
  time : Binary64
  millis : Rat
  number : time.value? = some millis

namespace FiniteStamp

theorem isFinite_time (t : FiniteStamp) : t.time.isFinite = true :=
  (Binary64.of_value? t.number).1

/-- The time from one stamp to another in microseconds. -/
def micros (first last : FiniteStamp) : Rat := 1000 * (last.millis - first.millis)

/-- Neither the difference of two stamps nor its thousandfold is rounded. -/
structure Exact (previous now : FiniteStamp) : Prop where
  difference : (now.time.sub previous.time).value? = some (now.millis - previous.millis)
  product : ((now.time.sub previous.time).mul (.ofNat 1000)).value? = some (micros previous now)

/-- The fractions of a microsecond from stamp to stamp. -/
def fractions : FiniteStamp → List FiniteStamp → Rat
  | _, [] => 0
  | previous, now :: later => Int.fract (micros previous now) + fractions now later

end FiniteStamp

open FiniteStamp

/-- Between stamps that are exact the clock drops the fraction of a microsecond. -/
theorem lapse_of_exact {previous now : FiniteStamp} (forward : previous.millis < now.millis)
    (exact : previous.Exact now) (short : micros previous now < 2 ^ 64) :
    (lapse previous.time now.time : Rat) = ⌊micros previous now⌋ := by
  have positive : 0 ≤ micros previous now :=
    mul_nonneg (by norm_num) (sub_nonneg.mpr forward.le)
  have least : 0 ≤ ⌊micros previous now⌋ := Int.floor_nonneg.mpr positive
  have greatest : ⌊micros previous now⌋ < 2 ^ 64 := Int.floor_lt.mpr (by exact_mod_cast short)
  have whole : lapse previous.time now.time = ⌊micros previous now⌋.toNat := by
    rw [lapse, previous.number, now.number]
    dsimp only
    rw [if_pos forward, Binary64.truncated, exact.product]
    dsimp only
    omega
  rw [whole, ← Int.cast_natCast, Int.toNat_of_nonneg least]

/-! ## What is lost -/

namespace FiniteStamp

theorem micros_add (first middle last : FiniteStamp) :
    micros first middle + micros middle last = micros first last := by
  unfold micros
  ring

theorem micros_self (t : FiniteStamp) : micros t t = 0 := by
  unfold micros
  ring

/-- Stamps that move forward end at or after the first one. -/
theorem micros_nonneg {first : FiniteStamp} {later : List FiniteStamp}
    (increasing : (first :: later).IsChain fun p n => p.millis < n.millis) :
    0 ≤ micros first (later.getLastD first) := by
  induction later generalizing first with
  | nil => exact (micros_self first).ge
  | cons now later ih =>
    obtain ⟨forward, increasing⟩ := List.isChain_cons_cons.mp increasing
    have rest := ih increasing
    have here : 0 ≤ micros first now := mul_nonneg (by norm_num) (sub_nonneg.mpr forward.le)
    rw [List.getLastD_cons, ← micros_add first now]
    exact add_nonneg here rest

theorem fractions_nonneg (first : FiniteStamp) (later : List FiniteStamp) :
    0 ≤ fractions first later := by
  induction later generalizing first with
  | nil => exact le_rfl
  | cons now later ih => exact add_nonneg (Int.fract_nonneg _) (ih now)

theorem fractions_le_length (first : FiniteStamp) (later : List FiniteStamp) :
    fractions first later ≤ later.length := by
  induction later generalizing first with
  | nil => exact le_rfl
  | cons now later ih =>
    have here := (Int.fract_lt_one (micros first now)).le
    rw [fractions, List.length_cons, Nat.cast_succ, add_comm (later.length : Rat)]
    exact add_le_add here (ih now)

/-- Each stamp after the first loses less than a microsecond. -/
theorem fractions_lt_length (first : FiniteStamp) {later : List FiniteStamp} (some : later ≠ []) :
    fractions first later < later.length := by
  cases later with
  | nil => exact absurd rfl some
  | cons now later =>
    have here := Int.fract_lt_one (micros first now)
    rw [fractions, List.length_cons, Nat.cast_succ, add_comm (later.length : Rat)]
    exact add_lt_add_of_lt_of_le here (fractions_le_length now later)

/-- Nothing is lost between whole milliseconds. -/
theorem fractions_eq_zero {first : FiniteStamp} {later : List FiniteStamp}
    (whole : ∀ t ∈ first :: later, ∃ k : Int, t.millis = k) : fractions first later = 0 := by
  induction later generalizing first with
  | nil => rfl
  | cons now later ih =>
    obtain ⟨a, atFirst⟩ := whole first (List.mem_cons_self ..)
    obtain ⟨b, atNow⟩ := whole now (List.mem_cons_of_mem _ (List.mem_cons_self ..))
    have integer : micros first now = ((1000 * (b - a) : Int) : Rat) := by
      rw [micros, atFirst, atNow]
      push_cast
      rfl
    rw [fractions, ih fun t here => whole t (List.mem_cons_of_mem _ here), integer,
      Int.fract_intCast, add_zero]

end FiniteStamp

/-! ## What is handed out -/

namespace Clock

/-- The times in microseconds that a clock hands out at some stamps. -/
def times (c : Clock) (stamps : List Binary64) : List Nat :=
  (c.handedOut (stamps.map .advanced)).map fun entry => entry.2.toNat

/-- The clock after some stamps. -/
def afterStamps (c : Clock) (stamps : List Binary64) : Clock := c.after (stamps.map .advanced)

theorem times_cons (c : Clock) (now : Binary64) (stamps : List Binary64) :
    c.times (now :: stamps) = (c.tick now).value.1.toNat :: (c.tick now).value.2.times stamps := rfl

theorem times_append (c : Clock) (first second : List Binary64) :
    c.times (first ++ second) = c.times first ++ (c.afterStamps first).times second := by
  rw [times, List.map_append, handedOut_append, List.map_append]
  rfl

/-- The times handed out and the fractions lost are the time from the first stamp to the last. -/
theorem sum_times_add_fractions {c : Clock} {first : FiniteStamp}
    (counts : c.baseline = some first.time) {later : List FiniteStamp}
    (increasing : (first :: later).IsChain fun p n => p.millis < n.millis)
    (exact : (first :: later).IsChain Exact)
    (short : micros first (later.getLastD first) < 2 ^ 64) :
    ((c.times (later.map time)).sum : Rat) + fractions first later =
      micros first (later.getLastD first) := by
  have stamped (t : FiniteStamp) : (Mark.advanced t.time).baseline = some t.time :=
    if_pos t.isFinite_time
  induction later generalizing c first with
  | nil =>
    have none : (c.times []).sum = 0 := rfl
    rw [List.map_nil, none, List.getLastD_nil, micros_self, fractions, Nat.cast_zero, add_zero]
  | cons now later ih =>
    obtain ⟨forward, increasing⟩ := List.isChain_cons_cons.mp increasing
    obtain ⟨here, exact⟩ := List.isChain_cons_cons.mp exact
    rw [List.getLastD_cons, ← micros_add first now] at short ⊢
    have rest := micros_nonneg increasing
    have next : 0 < micros first now := mul_pos (by norm_num) (sub_pos.mpr forward)
    have elapsed : ((c.tick now.time).value.1.toNat : Rat) = ⌊micros first now⌋ := by
      rw [toNat_elapsed (counts.trans (stamped first).symm), lapse_of_exact forward here]
      linarith
    have baseline := (c.baseline_tick now.time).trans (stamped now)
    have sum := ih baseline increasing exact (by linarith)
    rw [List.map_cons, times_cons, List.sum_cons, Nat.cast_add, elapsed, fractions]
    have parts := Int.floor_add_fract (micros first now)
    linarith

/-- At some stamps the total grows by the sum of the times, as far as 64 bits go. -/
theorem total_afterStamps (c : Clock) (stamps : List Binary64) :
    (c.afterStamps stamps).total.toNat =
      min (c.total.toNat + (c.times stamps).sum) (2 ^ 64 - 1) := by
  induction stamps generalizing c with
  | nil => exact (Nat.min_eq_left (Nat.le_sub_one_of_lt c.total.toNat_lt)).symm
  | cons now stamps ih =>
    have next : c.afterStamps (now :: stamps) = (c.tick now).value.2.afterStamps stamps := rfl
    rw [next, ih, total_tick, times_cons, List.sum_cons]
    omega

/-- No time is lost or invented by a clock that is new or was just cut.  Take stamps that move
forward, with differences and products that are not rounded, and less than `2⁶⁴` microseconds from
the first to the last.  The times handed out are together at most the time from the first to the
last, and miss less than one microsecond for each stamp after the first, and nothing if all are
whole milliseconds.  The total is their sum.  For any stamps at all the total is the sum of the
times handed out, capped at `2⁶⁴ - 1`, and never falls. -/
theorem no_time_lost_or_invented (earlier : Clock) :
    let c := earlier.discontinuity.value
    c = {} ∧
    (∀ (first : FiniteStamp) (later : List FiniteStamp),
      (first :: later).IsChain (fun p n => p.millis < n.millis) →
      (first :: later).IsChain Exact →
      1000 * ((later.getLastD first).millis - first.millis) < 2 ^ 64 →
      let stamps := (first :: later).map time
      let sum := (c.times stamps).sum
      let span := 1000 * ((later.getLastD first).millis - first.millis)
      (sum : Rat) ≤ span ∧ (later ≠ [] → span - later.length < sum) ∧
      ((∀ t ∈ first :: later, ∃ k : Int, t.millis = k) → (sum : Rat) = span) ∧
      (c.afterStamps stamps).total.toNat = sum) ∧
    ∀ stamps : List Binary64,
      (c.afterStamps stamps).total.toNat = min (c.times stamps).sum (2 ^ 64 - 1) ∧
      ∀ past, past <+: stamps → (c.afterStamps past).total ≤ (c.afterStamps stamps).total := by
  intro c
  have fresh : c = {} := rfl
  have total (stamps : List Binary64) :
      (({} : Clock).afterStamps stamps).total.toNat =
        min (({} : Clock).times stamps).sum (2 ^ 64 - 1) := by
    have sum := ({} : Clock).total_afterStamps stamps
    rwa [show ({} : Clock).total.toNat = 0 from rfl, Nat.zero_add] at sum
  refine ⟨fresh, ?_, ?_⟩
  · intro first later increasing exact short stamps sum span
    have started : (({} : Clock).tick first.time).value = (0, { baseline := some first.time }) :=
      value_tick_first rfl first.isFinite_time
    let begun : Clock := { baseline := some first.time }
    have handed : sum = (begun.times (later.map time)).sum := by
      show (({} : Clock).times (first.time :: later.map time)).sum = _
      rw [times_cons, started, List.sum_cons]
      exact Nat.zero_add _
    have parts : (sum : Rat) + fractions first later = span := by
      rw [handed]
      exact sum_times_add_fractions rfl increasing exact short
    have least := fractions_nonneg first later
    have bounded : (sum : Rat) ≤ span := by linarith
    refine ⟨bounded, ?_, ?_, ?_⟩
    · intro some
      have greatest := fractions_lt_length first some
      linarith
    · intro whole
      rw [fractions_eq_zero whole, add_zero] at parts
      exact parts
    · have below : sum < 2 ^ 64 := by exact_mod_cast bounded.trans_lt short
      rw [fresh, total]
      exact Nat.min_eq_left (Nat.le_sub_one_of_lt below)
  · intro stamps
    refine ⟨total stamps, ?_⟩
    rintro past ⟨rest, rfl⟩
    rw [fresh, UInt64.le_iff_toNat_le, total, total, times_append, List.sum_append]
    omega

/-- Two steps of 62.5 microseconds lose half a microsecond each. -/
theorem no_time_lost_or_invented_of_half_micros :
    let c := (⟨some (.ofNat 7), 5⟩ : Clock).discontinuity.value
    let stamps : List Binary64 := [⟨0⟩, ⟨0x3fb0000000000000⟩, ⟨0x3fc0000000000000⟩]
    let sum := (c.times stamps).sum
    ((sum : Rat) ≤ 125 ∧ 125 - 2 < (sum : Rat)) ∧ sum = 124 ∧
    (c.afterStamps stamps).total = 124 := by
  intro c stamps sum
  let start : FiniteStamp := ⟨⟨0⟩, 0, by decide +kernel⟩
  let middle : FiniteStamp := ⟨⟨0x3fb0000000000000⟩, 1 / 16, by decide +kernel⟩
  let stop : FiniteStamp := ⟨⟨0x3fc0000000000000⟩, 1 / 8, by decide +kernel⟩
  have first : start.Exact middle := ⟨by decide +kernel, by decide +kernel⟩
  have second : middle.Exact stop := ⟨by decide +kernel, by decide +kernel⟩
  have span : 1000 * (([middle, stop].getLastD start).millis - start.millis) = 125 := by
    show 1000 * ((1 / 8 : Rat) - 0) = 125
    norm_num
  have forward : [start, middle, stop].IsChain fun p n => p.millis < n.millis := by
    rw [List.isChain_cons_cons, List.isChain_cons_cons]
    norm_num [start, middle, stop]
  obtain ⟨_, exact, _⟩ := no_time_lost_or_invented ⟨some (.ofNat 7), 5⟩
  obtain ⟨most, least, _, total⟩ := exact start [middle, stop] forward
    (by simp [first, second]) (by rw [span]; norm_num)
  rw [span] at most least
  have handed : sum = 124 := by decide +kernel
  exact ⟨⟨most, least (by simp)⟩, handed, UInt64.toNat_inj.mp (total.trans handed)⟩

end Clock

end VipHost
