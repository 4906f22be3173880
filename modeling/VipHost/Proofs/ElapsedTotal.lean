import Mathlib.Data.List.Induction
import VipHost.Proofs.StaleTime

/-!
# The total of a clock

A clock hands out time at each stamp and keeps a total of it.  At a stamp the total grows by what
is handed out, as far as 64 bits go, and a cut sets it back to zero (`Clock.total_step`).  So the
total is the sum of the times since the last cut, capped once at the end
(`Clock.total_after_eq_min_sum`).

A stamp that is not finite also ends the time that is counted, since it drops the baseline.  But
it leaves the total alone.  So the total counts from the last discontinuity of either kind only as
long as no such stamp comes after time was handed out.
-/

namespace VipHost

namespace Mark

/-- Whether a mark is a cut. -/
def isCut : Mark → Bool
  | .cut => true
  | .advanced _ => false

/-- Whether no time is counted across a mark: at a cut, and at a stamp that is not finite. -/
def isDiscontinuity : Mark → Bool
  | .cut => true
  | .advanced now => !now.isFinite

end Mark

/-- The sum of the times handed out since the last mark of a kind. -/
def timeSince (restarts : Mark → Bool) (handed : List (Mark × UInt64)) : Nat :=
  ((handed.reverse.takeWhile fun entry => !restarts entry.1).map fun entry => entry.2.toNat).sum

theorem timeSince_concat (restarts : Mark → Bool) (handed : List (Mark × UInt64)) (m : Mark)
    (t : UInt64) :
    timeSince restarts (handed ++ [(m, t)]) =
      if restarts m then 0 else timeSince restarts handed + t.toNat := by
  rw [timeSince, List.reverse_concat, List.takeWhile_cons]
  cases restarts m with
  | true => rfl
  | false => simp [timeSince, Nat.add_comm]

namespace Clock

/-! ## Marks on a clock -/

/-- The time that a clock hands out at a mark, and the clock after it. -/
def step (c : Clock) : Mark → UInt64 × Clock
  | .advanced now => (c.tick now).value
  | .cut => (0, c.discontinuity.value)

/-- The clock after some marks. -/
def after : Clock → List Mark → Clock
  | c, [] => c
  | c, m :: marks => (c.step m).2.after marks

/-- The marks with the time handed out at each. -/
def handedOut : Clock → List Mark → List (Mark × UInt64)
  | _, [] => []
  | c, m :: marks => (m, (c.step m).1) :: (c.step m).2.handedOut marks

theorem after_append (c : Clock) (first second : List Mark) :
    c.after (first ++ second) = (c.after first).after second := by
  induction first generalizing c with
  | nil => rfl
  | cons m first ih => exact ih (c.step m).2

theorem after_concat (c : Clock) (marks : List Mark) (m : Mark) :
    c.after (marks ++ [m]) = ((c.after marks).step m).2 := c.after_append marks [m]

theorem handedOut_append (c : Clock) (first second : List Mark) :
    c.handedOut (first ++ second) = c.handedOut first ++ (c.after first).handedOut second := by
  induction first generalizing c with
  | nil => rfl
  | cons m first ih => exact congrArg _ (ih (c.step m).2)

theorem handedOut_concat (c : Clock) (marks : List Mark) (m : Mark) :
    c.handedOut (marks ++ [m]) = c.handedOut marks ++ [(m, ((c.after marks).step m).1)] :=
  c.handedOut_append marks [m]

/-! ## The total -/

/-- At a stamp the total grows by the time handed out, as far as 64 bits go. -/
theorem total_tick (c : Clock) (now : Binary64) :
    (c.tick now).value.2.total.toNat =
      min (c.total.toNat + (c.tick now).value.1.toNat) (2 ^ 64 - 1) := by
  have kept : min (c.total.toNat + (0 : UInt64).toNat) (2 ^ 64 - 1) = c.total.toNat :=
    Nat.min_eq_left (Nat.le_sub_one_of_lt c.total.toNat_lt)
  cases finite : now.isFinite with
  | false =>
    rw [c.value_tick_not_finite finite]
    exact kept.symm
  | true =>
    cases counts : c.baseline with
    | none =>
      rw [value_tick_first counts finite]
      exact kept.symm
    | some previous =>
      rw [value_tick_next counts finite]
      split
      · exact kept.symm
      · exact toNat_saturatingAdd ..

theorem total_step (c : Clock) (m : Mark) :
    (c.step m).2.total.toNat =
      if m.isCut then 0 else min (c.total.toNat + (c.step m).1.toNat) (2 ^ 64 - 1) := by
  cases m with
  | cut => rfl
  | advanced now => exact c.total_tick now

/-- The total is the sum since the last cut, capped once. -/
theorem total_after_eq_min_sum (marks : List Mark) :
    (({} : Clock).after marks).total.toNat =
      min (timeSince Mark.isCut (({} : Clock).handedOut marks)) (2 ^ 64 - 1) := by
  induction marks using List.reverseRecOn with
  | nil => rfl
  | append_singleton marks m ih =>
    rw [after_concat, handedOut_concat, total_step, timeSince_concat, ih]
    split
    next => rfl
    next =>
      -- a sum that was capped before stays at the cap
      omega

/-- The total is not touched by a stamp that is not finite. -/
theorem total_step_of_not_finite (c : Clock) {now : Binary64} (odd : now.isFinite = false) :
    (c.step (.advanced now)).2.total = c.total := by
  rw [step, c.value_tick_not_finite odd]

/-- The total after some marks is the sum since the last discontinuity, capped. -/
def CountsFromDiscontinuity (marks : List Mark) : Prop :=
  (({} : Clock).after marks).total.toNat =
    min (timeSince Mark.isDiscontinuity (({} : Clock).handedOut marks)) (2 ^ 64 - 1)

/-- After a stamp that is not finite, the total counts from it if it was zero already. -/
theorem countsFromDiscontinuity_of_not_finite {marks : List Mark} {now : Binary64}
    (odd : now.isFinite = false) :
    CountsFromDiscontinuity (marks ++ [.advanced now]) ↔
      (({} : Clock).after marks).total = 0 := by
  have restarts : Mark.isDiscontinuity (.advanced now) = true := by
    rw [Mark.isDiscontinuity, odd]
    rfl
  rw [CountsFromDiscontinuity, after_concat, handedOut_concat, timeSince_concat, if_pos restarts,
    total_step_of_not_finite _ odd]
  exact UInt64.toNat_inj (b := 0)

/-- Every other mark keeps the total counting from the last discontinuity. -/
theorem CountsFromDiscontinuity.concat {marks : List Mark} (counts : CountsFromDiscontinuity marks)
    {m : Mark} (plain : m.isDiscontinuity = m.isCut) : CountsFromDiscontinuity (marks ++ [m]) := by
  rw [CountsFromDiscontinuity, after_concat, handedOut_concat, total_step, timeSince_concat, plain,
    counts]
  split
  next => rfl
  next => omega

/-- The total is the sum of the times handed out since the last cut, capped at `2⁶⁴ - 1`.  It is
the sum since the last cut or stamp that is not finite in every state that some marks lead
through, exactly if each such stamp finds a total of zero. -/
theorem total_counts_from_last_discontinuity_iff (marks : List Mark) :
    (({} : Clock).after marks).total.toNat =
      min (timeSince Mark.isCut (({} : Clock).handedOut marks)) (2 ^ 64 - 1) ∧
    ((∀ past, past <+: marks →
        (({} : Clock).after past).total.toNat =
          min (timeSince Mark.isDiscontinuity (({} : Clock).handedOut past)) (2 ^ 64 - 1)) ↔
      ∀ past now, past ++ [.advanced now] <+: marks → now.isFinite = false →
        (({} : Clock).after past).total = 0) := by
  refine ⟨total_after_eq_min_sum marks, ?_, ?_⟩
  · intro counts past now reached odd
    exact (countsFromDiscontinuity_of_not_finite odd).mp (counts _ reached)
  · intro idle past
    induction past using List.reverseRecOn with
    | nil =>
      intro _
      rfl
    | append_singleton past m ih =>
      intro reached
      have counts : CountsFromDiscontinuity past := ih ((List.prefix_append ..).trans reached)
      cases m with
      | cut => exact counts.concat rfl
      | advanced now =>
        cases finite : now.isFinite with
        | true => exact counts.concat (by rw [Mark.isDiscontinuity, finite]; rfl)
        | false =>
          exact (countsFromDiscontinuity_of_not_finite finite).mpr (idle past now reached finite)

/-- A stamp that is not finite right after a cut, before any time was handed out. -/
theorem total_counts_from_last_discontinuity_iff_of_early_nan :
    let stamp (ms : Nat) : Mark := .advanced (.ofNat ms)
    let marks : List Mark := [stamp 0, stamp 10, .cut, .advanced .nan, stamp 5000, stamp 5001]
    (({} : Clock).after marks).total = 1000 ∧
    ∀ past, past <+: marks →
      (({} : Clock).after past).total.toNat =
        min (timeSince Mark.isDiscontinuity (({} : Clock).handedOut past)) (2 ^ 64 - 1) := by
  intro stamp marks
  obtain ⟨total, counts⟩ := total_counts_from_last_discontinuity_iff marks
  have sum : timeSince Mark.isCut (({} : Clock).handedOut marks) = 1000 := by decide +kernel
  rw [sum] at total
  refine ⟨UInt64.toNat_inj.mp total, counts.mpr ?_⟩
  intro past now reached odd
  have each : ∀ n < 6, (marks[n]?.any fun m => m.isDiscontinuity && !m.isCut) = true →
      (({} : Clock).after (marks.take n)).total = 0 := by decide +kernel
  have length : past.length < 6 := by
    have short := reached.length_le
    rwa [List.length_append, List.length_singleton] at short
  have front : past = marks.take past.length :=
    List.prefix_iff_eq_take.mp ((List.prefix_append ..).trans reached)
  have here : marks[past.length]? = some (.advanced now) := by
    obtain ⟨rest, whole⟩ := reached
    simp [← whole]
  rw [front]
  exact each _ length (by simp [here, Mark.isDiscontinuity, Mark.isCut, odd])

/-- Time that was handed out before a stamp that is not finite stays in the total. -/
theorem total_kept_over_nan :
    let marks : List Mark := [.advanced (.ofNat 0), .advanced (.ofNat 10), .advanced .nan]
    let c : Clock := {}
    (c.after marks).total = 10000 ∧ timeSince Mark.isDiscontinuity (c.handedOut marks) = 0 ∧
    (c.after marks).total.toNat ≠
      min (timeSince Mark.isDiscontinuity (c.handedOut marks)) (2 ^ 64 - 1) := by
  decide +kernel

end Clock

end VipHost
