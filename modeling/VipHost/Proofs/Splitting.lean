import Mathlib.Data.Rat.Floor
import VipHost.Proofs.PowerOn

/-!
# Splitting an advance

An advance takes the whole periods in the debt and its own time off the timers and leaves the rest
as debt (`Machine.toNat_dt_advance`, `Machine.toNat_timerDebt_advance`).  The sum of the two stops
at the greatest time.  The timers never see this, for a sum that stops has far more periods than a
timer can hold; the debt does, and is then no longer the rest of the true sum.

So a time that has *passed* between two machines is known by the timers and, unless they have run
down by then, by the debt (`Machine.Passed`).  Times that pass one after the other add up
(`Machine.Passed.trans`), and so it does not matter how a time is split into advances.
-/

namespace VipHost

/-! ## One advance -/

theorem toNat_countDown (timer : UInt8) (counts : Nat) :
    (countDown timer counts).toNat = timer.toNat - counts := by
  have small := timer.toNat_lt
  rw [countDown, UInt8.toNat_ofNat']
  exact Nat.mod_eq_of_lt (by omega)

namespace Machine

/-- The debt after an advance is what is left of a sum that stops at the greatest time. -/
theorem toNat_timerDebt_advance (m : Machine) (e : UInt64) :
    (m.advance e).timerDebt.toNat = min (m.timerDebt.toNat + e.toNat) (2 ^ 64 - 1) % 16667 := by
  have whole : UInt64.size = 2 ^ 64 := rfl
  show (saturatingAdd m.timerDebt e % timerPeriod).toNat = _
  rw [UInt64.toNat_mod, toNat_saturatingAdd, whole]
  rfl

/-- How often the timers count in an advance. -/
theorem toNat_counts (m : Machine) (e : UInt64) :
    (saturatingAdd m.timerDebt e / timerPeriod).toNat =
      min (m.timerDebt.toNat + e.toNat) (2 ^ 64 - 1) / 16667 := by
  have whole : UInt64.size = 2 ^ 64 := rfl
  rw [UInt64.toNat_div, toNat_saturatingAdd, whole]
  rfl

/-- The delay timer goes down by the periods in the true sum, also when the sum stops. -/
theorem toNat_dt_advance (m : Machine) (e : UInt64) :
    (m.advance e).registers.dt.toNat =
      m.registers.dt.toNat - (m.timerDebt.toNat + e.toNat) / 16667 := by
  have small := m.registers.dt.toNat_lt
  show (countDown m.registers.dt (min (saturatingAdd m.timerDebt e / timerPeriod).toNat 255)).toNat =
    _
  rw [toNat_countDown, toNat_counts]
  -- a sum that stops is longer than 255 periods, and so is the true one
  omega

/-- The sound timer goes down by the periods in the true sum, also when the sum stops. -/
theorem toNat_st_advance (m : Machine) (e : UInt64) :
    (m.advance e).registers.st.toNat =
      m.registers.st.toNat - (m.timerDebt.toNat + e.toNat) / 16667 := by
  have small := m.registers.st.toNat_lt
  show (countDown m.registers.st (min (saturatingAdd m.timerDebt e / timerPeriod).toNat 255)).toNat =
    _
  rw [toNat_countDown, toNat_counts]
  omega

/-- An advance changes the debt, the timers and the picture, and nothing else. -/
theorem advance_eq (m : Machine) (e : UInt64) :
    m.advance e =
      { m with
        registers :=
          { m.registers with
            dt := (m.advance e).registers.dt
            st := (m.advance e).registers.st }
        frame := .ofPage m.memory.displayPage
        timerDebt := (m.advance e).timerDebt } := rfl

/-! ## The debt -/

/-- The debt stays below a period. -/
theorem timerDebt_lt_operate {m : Machine} (below : m.timerDebt.toNat < 16667) (op : Operation) :
    (m.operate op).timerDebt.toNat < 16667 := by
  cases op with
  | load program =>
    by_cases oversized : Memory.programCapacity < program.size
    · rw [operate, load_of_oversized m oversized]
      exact below
    · rw [operate, load_of_fits m (Nat.not_lt.mp oversized)]
      dsimp only
      rw [timerDebt_loaded]
      decide
  | reset =>
    rw [operate, reset_eq_loaded, timerDebt_loaded]
    decide
  | advance elapsed =>
    rw [operate, toNat_timerDebt_advance]
    exact Nat.mod_lt _ (by decide)
  | key k state => exact below
  | registers r => exact below
  | write start data => exact below
  | fill start len b => exact below

theorem timerDebt_lt_operateAll {m : Machine} (below : m.timerDebt.toNat < 16667)
    (ops : List Operation) : (m.operateAll ops).timerDebt.toNat < 16667 := by
  induction ops generalizing m with
  | nil => exact below
  | cons op ops ih => exact ih (timerDebt_lt_operate below op)

/-! ## Time that passes -/

/-- The time an operation takes, if it is an advance. -/
def Operation.elapsed? : Operation → Option UInt64
  | .advance elapsed => some elapsed
  | _ => none

/-- Whether an operation leaves the timers to the advances: it neither replaces the program nor
writes the registers. -/
def Operation.leavesTimers : Operation → Bool
  | .load _ => false
  | .reset => false
  | .registers _ => false
  | _ => true

/-- The times of the advances among some operations. -/
def times (ops : List Operation) : List UInt64 := ops.filterMap Operation.elapsed?

/-- The sum of some times, however large. -/
def total (es : List UInt64) : Nat := (es.map UInt64.toNat).sum

/-- A time has passed from one machine to another.  The timers are down by the periods in it and
the old debt, and the rest is the new debt; only if it is too long for any timer, the new debt may
be another one. -/
structure Passed (time : Nat) (m m' : Machine) : Prop where
  dt : m'.registers.dt.toNat = m.registers.dt.toNat - (m.timerDebt.toNat + time) / 16667
  st : m'.registers.st.toNat = m.registers.st.toNat - (m.timerDebt.toNat + time) / 16667
  debt : m'.timerDebt.toNat = (m.timerDebt.toNat + time) % 16667 ∨
    255 * 16667 ≤ m.timerDebt.toNat + time

theorem Passed.zero {m m' : Machine} (below : m.timerDebt.toNat < 16667)
    (registers : m'.registers = m.registers) (debt : m'.timerDebt = m.timerDebt) :
    Passed 0 m m' where
  dt := by rw [registers]; omega
  st := by rw [registers]; omega
  debt := .inl (by rw [debt]; omega)

theorem Passed.advance (m : Machine) (e : UInt64) : Passed e.toNat m (m.advance e) where
  dt := m.toNat_dt_advance e
  st := m.toNat_st_advance e
  debt := by
    rw [toNat_timerDebt_advance]
    omega

/-- Times that pass one after the other add up. -/
theorem Passed.trans {m m' m'' : Machine} {t t' : Nat} (first : Passed t m m')
    (second : Passed t' m' m'') : Passed (t + t') m m'' := by
  have low := m.registers.dt.toNat_lt
  have low' := m.registers.st.toNat_lt
  obtain ⟨dt, st, debt⟩ := first
  obtain ⟨dt', st', debt'⟩ := second
  obtain exact | long := debt
  · constructor
    · rw [dt', dt, exact]
      omega
    · rw [st', st, exact]
      omega
    · omega
  · -- the timers have run down before the second time begins
    constructor
    · rw [dt', dt]
      omega
    · rw [st', st]
      omega
    · omega

/-- Of the operations that leave the timers to the advances, the others take no time and touch
neither timers nor debt. -/
theorem Operation.advance_or_idle {op : Operation} (leaves : op.leavesTimers = true) :
    (∃ e, op = .advance e) ∨
      op.elapsed? = none ∧ ∀ m : Machine, (m.operate op).registers = m.registers ∧
        (m.operate op).timerDebt = m.timerDebt := by
  cases op with
  | advance elapsed => exact .inl ⟨elapsed, rfl⟩
  | key k state => exact .inr ⟨rfl, fun m => ⟨rfl, rfl⟩⟩
  | write start data => exact .inr ⟨rfl, fun m => ⟨rfl, rfl⟩⟩
  | fill start len b => exact .inr ⟨rfl, fun m => ⟨rfl, rfl⟩⟩
  | load program => cases leaves
  | reset => cases leaves
  | registers r => cases leaves

theorem total_times_advance (e : UInt64) (ops : List Operation) :
    total (times (.advance e :: ops)) = e.toNat + total (times ops) := by
  have first : times (.advance e :: ops) = e :: times ops := List.filterMap_cons_some rfl
  rw [first, total, List.map_cons, List.sum_cons, total]

theorem times_idle {op : Operation} (idle : op.elapsed? = none) (ops : List Operation) :
    times (op :: ops) = times ops := List.filterMap_cons_none idle

theorem passed_operateAll {m : Machine} (below : m.timerDebt.toNat < 16667) {ops : List Operation}
    (leave : ∀ op ∈ ops, op.leavesTimers = true) :
    Passed (total (times ops)) m (m.operateAll ops) := by
  induction ops generalizing m with
  | nil => exact .zero below rfl rfl
  | cons op ops ih =>
    have rest := ih (timerDebt_lt_operate below op) fun op' later => leave op' (.tail _ later)
    obtain ⟨e, rfl⟩ | ⟨idle, same⟩ := Operation.advance_or_idle (leave op (.head _))
    · rw [total_times_advance]
      exact (Passed.advance m e).trans rest
    · obtain ⟨registers, debt⟩ := same m
      rw [times_idle idle, ← Nat.zero_add (total (times ops))]
      exact (Passed.zero below registers debt).trans rest

/-- The debt is the rest of the true sum if no single sum stops. -/
theorem toNat_timerDebt_operateAll {m : Machine} (below : m.timerDebt.toNat < 16667)
    {ops : List Operation} (leave : ∀ op ∈ ops, op.leavesTimers = true)
    (short : ∀ e ∈ times ops, e.toNat ≤ 2 ^ 64 - 16667) :
    (m.operateAll ops).timerDebt.toNat = (m.timerDebt.toNat + total (times ops)) % 16667 := by
  induction ops generalizing m with
  | nil => exact (Nat.mod_eq_of_lt below).symm
  | cons op ops ih =>
    have rest := ih (timerDebt_lt_operate below op) fun op' later => leave op' (.tail _ later)
    rw [operateAll_cons]
    obtain ⟨e, rfl⟩ | ⟨idle, same⟩ := Operation.advance_or_idle (leave op (.head _))
    · have fits : e.toNat ≤ 2 ^ 64 - 16667 := short e (.head _)
      rw [rest fun e' later => short e' (.tail _ later), total_times_advance, operate,
        toNat_timerDebt_advance]
      omega
    · rw [times_idle idle] at short ⊢
      rw [rest short, (same m).2]

/-! ## What stays -/

/-- Advances touch neither memory nor keypad: without them the other operations come to the
same. -/
theorem operateAll_without_advances {m n : Machine} (memory : m.memory = n.memory)
    (keypad : m.keypad = n.keypad) {ops : List Operation}
    (leave : ∀ op ∈ ops, op.leavesTimers = true) :
    let others := ops.filter fun op => op.elapsed?.isNone
    (m.operateAll ops).memory = (n.operateAll others).memory ∧
      (m.operateAll ops).keypad = (n.operateAll others).keypad := by
  induction ops generalizing m n with
  | nil => exact ⟨memory, keypad⟩
  | cons op ops ih =>
    have rest : ∀ op' ∈ ops, op'.leavesTimers = true := fun op' later => leave op' (.tail _ later)
    cases op with
    | advance elapsed => exact ih (m := m.advance elapsed) memory keypad rest
    | key k state =>
      refine ih (m := m.operate (.key k state)) (n := n.operate (.key k state)) memory ?_ rest
      exact congrArg (Keypad.set · k state) keypad
    | write start data =>
      refine ih (m := m.operate (.write start data)) (n := n.operate (.write start data))
        ?_ keypad rest
      exact congrArg (fun all => (all.write? start data).getD all) memory
    | fill start len b =>
      refine ih (m := m.operate (.fill start len b)) (n := n.operate (.fill start len b))
        ?_ keypad rest
      exact congrArg (fun all => (all.fill? start len b).getD all) memory
    | load program => cases leave _ (.head _)
    | reset => cases leave _ (.head _)
    | registers r => cases leave _ (.head _)

theorem registers_operateAll (m : Machine) {ops : List Operation}
    (leave : ∀ op ∈ ops, op.leavesTimers = true) :
    ∃ dt st, (m.operateAll ops).registers = { m.registers with dt, st } := by
  induction ops generalizing m with
  | nil => exact ⟨_, _, rfl⟩
  | cons op ops ih =>
    obtain ⟨dt, st, rest⟩ := ih (m.operate op) fun op' later => leave op' (.tail _ later)
    refine ⟨dt, st, ?_⟩
    rw [operateAll_cons, rest]
    cases op with
    | advance elapsed => rfl
    | key k state => rfl
    | write start data => rfl
    | fill start len b => rfl
    | load program => cases leave _ (.head _)
    | reset => cases leave _ (.head _)
    | registers r => cases leave _ (.head _)

/-! ## Splitting -/

/-- An advance can be split in two as long as no sum stops. -/
theorem advance_advance {m : Machine} (below : m.timerDebt.toNat < 16667) {a b : UInt64}
    (short : a.toNat + b.toNat ≤ 2 ^ 64 - 16667) :
    (m.advance a).advance b = m.advance (a + b) := by
  have sum : (a + b).toNat = a.toNat + b.toNat := by
    rw [UInt64.toNat_add]
    exact Nat.mod_eq_of_lt (by omega)
  have split := (Passed.advance m a).trans (.advance (m.advance a) b)
  have dt : ((m.advance a).advance b).registers.dt = (m.advance (a + b)).registers.dt := by
    apply UInt8.toNat_inj.mp
    rw [split.dt, toNat_dt_advance, sum]
  have st : ((m.advance a).advance b).registers.st = (m.advance (a + b)).registers.st := by
    apply UInt8.toNat_inj.mp
    rw [split.st, toNat_st_advance, sum]
  have debt : ((m.advance a).advance b).timerDebt = (m.advance (a + b)).timerDebt := by
    apply UInt64.toNat_inj.mp
    rw [toNat_timerDebt_advance, toNat_timerDebt_advance, toNat_timerDebt_advance, sum]
    omega
  rw [(m.advance a).advance_eq b, m.advance_eq (a + b), dt, st, debt]
  rfl

/-- It does not matter how a time is split into advances.  Take a machine that any operations led
to, and operations from there that neither replace the program nor write the registers.  Both
timers go down by the whole periods in the old debt and the true sum of the times, whether or not
a sum stops on the way.  The debt stays below a period, and is the rest of that sum if no time is
so long that a sum could stop.  Apart from the debt, the timers and the picture all is as if the
advances had been left out.  So two advances are one advance by both times, unless that is too
long. -/
theorem splitting_makes_no_difference (seed : UInt64) (past ops : List Operation)
    (leave : ∀ op ∈ ops, op.leavesTimers = true) :
    let m := (powerOn seed).operateAll past
    let m' := m.operateAll ops
    let idle := m.operateAll (ops.filter fun op => op.elapsed?.isNone)
    let sum := m.timerDebt.toNat + total (times ops)
    (m'.registers.dt.toNat = m.registers.dt.toNat - min m.registers.dt.toNat (sum / 16667) ∧
      m'.registers.st.toNat = m.registers.st.toNat - min m.registers.st.toNat (sum / 16667)) ∧
    (m'.timerDebt.toNat < 16667 ∧
      ((∀ e ∈ times ops, e.toNat ≤ 2 ^ 64 - 16667) → m'.timerDebt.toNat = sum % 16667)) ∧
    (m'.memory = idle.memory ∧ m'.keypad = idle.keypad ∧ m'.seed = m.seed ∧
      m'.registers = { m.registers with dt := m'.registers.dt, st := m'.registers.st }) ∧
    ∀ a b : UInt64, a.toNat + b.toNat ≤ 2 ^ 64 - 16667 →
      (m.advance a).advance b = m.advance (a + b) := by
  intro m m' idle sum
  have start : (powerOn seed).timerDebt.toNat < 16667 := by
    show (0 : UInt64).toNat < 16667
    decide
  have below : m.timerDebt.toNat < 16667 := timerDebt_lt_operateAll start past
  have passed : Passed (total (times ops)) m m' := passed_operateAll below leave
  obtain ⟨memory, keypad⟩ := operateAll_without_advances (m := m) rfl rfl leave
  obtain ⟨dt, st, registers⟩ := m.registers_operateAll leave
  refine ⟨⟨?_, ?_⟩, ⟨timerDebt_lt_operateAll below ops, ?_⟩,
    ⟨memory, keypad, seed_operateAll m ops, ?_⟩, fun a b => advance_advance below⟩
  · rw [passed.dt]
    omega
  · rw [passed.st]
    omega
  · exact toNat_timerDebt_operateAll below leave
  · have same : m'.registers = { m.registers with dt, st } := registers
    rw [same]

/-- A sum that stops, with a key event behind it and one more microsecond. -/
theorem splitting_makes_no_difference_of_stopped_sum :
    let m := (powerOn 42).operateAll [.registers { dt := 200, st := 5 }, .advance 16666]
    let m' := m.operateAll [.advance 0xffffffffffffffff, .key ⟨5⟩ .pressed, .advance 1]
    m.timerDebt.toNat + (2 ^ 64 - 1) > 2 ^ 64 - 1 ∧ m.registers.dt.toNat = 200 ∧
      m'.registers.dt.toNat = 0 ∧ m'.registers.st.toNat = 0 ∧ m'.timerDebt.toNat < 16667 ∧
      m'.keypad.get ⟨5⟩ = .pressed ∧ (m.advance 1).advance 16666 = m.advance 16667 := by
  intro m m'
  obtain ⟨⟨dt, st⟩, ⟨below, _⟩, ⟨_, keypad, _, _⟩, split⟩ := splitting_makes_no_difference 42
    [.registers { dt := 200, st := 5 }, .advance 16666]
    [.advance 0xffffffffffffffff, .key ⟨5⟩ .pressed, .advance 1]
    (by simp [Operation.leavesTimers])
  have debt : m.timerDebt.toNat = 16666 := by rfl
  have delay : m.registers.dt.toNat = 200 := by rfl
  have sound : m.registers.st.toNat = 5 := by rfl
  have sum : total (times [.advance 0xffffffffffffffff, .key ⟨5⟩ .pressed, .advance 1]) = 2 ^ 64 := by
    rw [total_times_advance, times_idle rfl, total_times_advance]
    rfl
  rw [sum] at dt st
  refine ⟨by omega, delay, ?_, ?_, below, ?_, split 1 16666 (by decide)⟩
  · have down : m'.registers.dt.toNat = m.registers.dt.toNat -
        min m.registers.dt.toNat ((m.timerDebt.toNat + 2 ^ 64) / 16667) := dt
    rw [down, delay, debt]
    decide
  · have down : m'.registers.st.toNat = m.registers.st.toNat -
        min m.registers.st.toNat ((m.timerDebt.toNat + 2 ^ 64) / 16667) := st
    rw [down, sound, debt]
    decide
  · rw [show m'.keypad = _ from keypad]
    rfl

end Machine

end VipHost
