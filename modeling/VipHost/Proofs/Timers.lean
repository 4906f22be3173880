import VipHost.Proofs.Splitting
import VipHost.Proofs.StaleTime

/-!
# The timers count host time

The time between whole milliseconds is exact (`lapse_ofInt`): the stamps, their
difference and its thousandfold are whole numbers that a double can hold.  A machine
has *counted* a time since its registers were written if the timers are down by the
whole periods in it and the debt is the rest (`Machine.Counted`).  An advance adds its
time to the time counted, since the debt carries the rest over
(`Machine.Counted.advance`).

So after a load and a write of the registers, the timers count the time from the first
stamp to the last one, and stamps between them make no difference
(`Session.keptTime_changeAll`).
-/

namespace VipHost

/-! ## Whole milliseconds -/

/-- A time stamp of whole milliseconds, not too far from zero to be counted exactly. -/
structure Stamp where
  time : Binary64
  millis : Int
  whole : time.value? = some (millis : Rat)
  small : millis.natAbs < 2 ^ 42

namespace Stamp

/-- The stamp of a number of milliseconds. -/
def ofInt (millis : Int) (small : millis.natAbs < 2 ^ 42) : Stamp :=
  ⟨.ofInt millis, millis, Binary64.value?_ofInt (Nat.lt_trans small (by decide)), small⟩

theorem isFinite_time (t : Stamp) : t.time.isFinite = true := (Binary64.of_value? t.whole).1

end Stamp

/-- The time between whole milliseconds is a thousand microseconds for each. -/
theorem lapse_of_lt {p n : Stamp} (later : p.millis < n.millis) :
    lapse p.time n.time = 1000 * (n.millis - p.millis).toNat := by
  have small := p.small
  have small' := n.small
  -- neither the difference nor the product is rounded
  have apart := Binary64.IsWhole.sub n.whole p.whole (by omega)
  have micros := apart.mul (.ofNat (n := 1000) (by decide)) (by omega)
  have floor : ((n.time.sub p.time).mul (.ofNat 1000)).truncated =
      min ((n.millis - p.millis) * 1000).toNat (2 ^ 64 - 1) := by
    rw [Binary64.truncated, micros]
    dsimp only
    rw [Int.floor_intCast]
    rfl
  rw [lapse, p.whole, n.whole]
  dsimp only
  rw [if_pos (Int.cast_lt.mpr later), floor]
  omega

/-! ## The machine -/

/-- The timers of a machine have counted a time in microseconds from the registers on,
and what does not fill a period is left as debt. -/
structure Machine.Counted (registers : Registers) (time : Nat) (m : Machine) : Prop where
  debt : m.timerDebt.toNat = time % 16667
  dt : m.registers.dt.toNat = registers.dt.toNat - time / 16667
  st : m.registers.st.toNat = registers.st.toNat - time / 16667

/-- An advance adds its time to what was counted. -/
theorem Machine.Counted.advance {m : Machine} {registers : Registers} {time : Nat}
    (counted : m.Counted registers time) {e : UInt64} (short : e.toNat < 2 ^ 63) :
    (m.advance e).Counted registers (time + e.toNat) := by
  obtain ⟨debt, dt, st⟩ := counted
  constructor
  · -- the debt is below a period and the time is short, so the sum does not stop
    rw [toNat_timerDebt_advance, debt]
    omega
  · rw [toNat_dt_advance, dt, debt]
    omega
  · rw [toNat_st_advance, st, debt]
    omega

/-! ## Sessions -/

/-- The time in microseconds from the first of some stamps to the last. -/
def timeOver : List Stamp → Nat
  | [] => 0
  | t :: ts => 1000 * ((ts.getLastD t).millis - t.millis).toNat

/-- Stamps that increase. -/
def Increasing (ts : List Stamp) : Prop := ts.Pairwise fun a b => a.millis < b.millis

theorem timeOver_concat {past : List Stamp} {t : Stamp} (increasing : Increasing (past ++ [t])) :
    timeOver (past ++ [t]) =
      timeOver past + past.getLast?.elim 0 fun p => 1000 * (t.millis - p.millis).toNat := by
  cases past with
  | nil => simp [timeOver]
  | cons first past =>
    obtain ⟨before, _, below⟩ := List.pairwise_append.mp increasing
    have inside : past.getLastD first ∈ first :: past := List.getLastD_mem_cons
    have last : (past.getLastD first).millis < t.millis := below _ inside t (.head _)
    have order : first.millis ≤ (past.getLastD first).millis := by
      obtain same | later := List.mem_cons.mp inside
      · rw [same]
      · exact (List.rel_of_pairwise_cons before later).le
    rw [List.getLast?_cons, Option.elim_some, List.cons_append, timeOver, timeOver,
      List.getLastD_concat, ← List.getLastD_eq_getLast?]
    omega

namespace Session

/-- A session that was advanced to some stamps since its registers were written. -/
structure KeptTime (registers : Registers) (past : List Stamp) (s : Session) : Prop where
  baseline : s.clock.baseline = past.getLast?.map Stamp.time
  counted : s.machine.Counted registers (timeOver past)

section Stamps

variable {s : Session} {registers : Registers} {past : List Stamp}

/-- A change without a mark keeps the time, unless it writes registers. -/
theorem KeptTime.change_unmarked (kept : s.KeptTime registers past) {c : Change}
    (noMark : c.mark? = none) (noWrite : ∀ r, c ≠ .registers r) :
    (s.change c).KeptTime registers past := by
  cases c with
  | load program =>
    by_cases oversized : Memory.programCapacity < program.size
    · rw [change, value_load_of_oversized s oversized]
      exact kept
    · rw [Change.mark?, if_neg oversized] at noMark
      cases noMark
  | reset => cases noMark
  | invalidate => cases noMark
  | advance now => cases noMark
  | key k state => exact ⟨kept.baseline, ⟨kept.counted.debt, kept.counted.dt, kept.counted.st⟩⟩
  | registers r => exact absurd rfl (noWrite r)
  | poke start data =>
    rw [change, poke]
    cases s.machine.memory.write? start data with
    | none => exact kept
    | some memory => exact ⟨kept.baseline, ⟨kept.counted.debt, kept.counted.dt, kept.counted.st⟩⟩

/-- An advance to a later stamp adds the time since the last one. -/
theorem KeptTime.change_advance (kept : s.KeptTime registers past) {t : Stamp}
    (increasing : Increasing (past ++ [t])) :
    (s.change (.advance t.time)).KeptTime registers (past ++ [t]) := by
  have stamped (t : Stamp) : (Mark.advanced t.time).baseline = some t.time :=
    if_pos t.isFinite_time
  have elapsed : (s.advanceTo t.time).value.1.toNat =
      past.getLast?.elim 0 fun p => 1000 * (t.millis - p.millis).toNat := by
    have baseline := kept.baseline
    cases last : past.getLast? with
    | none =>
      rw [last] at baseline
      exact congrArg UInt64.toNat (Clock.elapsed_pending baseline t.time)
    | some p =>
      have later : p.millis < t.millis :=
        (List.pairwise_append.mp increasing).2.2 p (List.mem_of_getLast? last) t (.head _)
      rw [last, Option.map_some, ← stamped p] at baseline
      rw [Option.elim_some, ← lapse_of_lt later]
      exact Clock.toNat_elapsed baseline t.time
  have short : (s.advanceTo t.time).value.1.toNat < 2 ^ 63 := by
    rw [elapsed]
    cases past.getLast? with
    | none => exact Nat.two_pow_pos 63
    | some p =>
      have small := p.small
      have small' := t.small
      rw [Option.elim_some]
      omega
  constructor
  · rw [baseline_change, Change.mark?, Option.elim_some, stamped, List.getLast?_concat]
    rfl
  · rw [timeOver_concat increasing, ← elapsed]
    exact kept.counted.advance short

/-- Changes that only advance to later and later stamps keep the time. -/
theorem KeptTime.changeAll (kept : s.KeptTime registers past) {cs : List Change}
    (noWrite : ∀ r, Change.registers r ∉ cs) {ts : List Stamp}
    (marks : cs.filterMap Change.mark? = ts.map fun t => .advanced t.time)
    (increasing : Increasing (past ++ ts)) : (s.changeAll cs).KeptTime registers (past ++ ts) := by
  induction cs generalizing s past ts with
  | nil =>
    obtain rfl : ts = [] := by simpa using marks.symm
    rw [List.append_nil]
    exact kept
  | cons c cs ih =>
    have noWrite' : ∀ r, Change.registers r ∉ cs := fun r here => noWrite r (.tail _ here)
    cases mark : c.mark? with
    | none =>
      rw [List.filterMap_cons_none mark] at marks
      have unmarked := kept.change_unmarked mark fun r same => noWrite r (same ▸ .head _)
      exact ih unmarked noWrite' marks increasing
    | some m =>
      rw [List.filterMap_cons_some mark] at marks
      cases ts with
      | nil => cases marks
      | cons t ts =>
        rw [List.map_cons] at marks
        obtain ⟨same, marks⟩ := List.cons.inj marks
        obtain rfl := Change.eq_advance (same ▸ mark)
        rw [List.append_cons] at increasing ⊢
        have first := kept.change_advance (t := t) (List.pairwise_append.mp increasing).1
        exact ih first noWrite' marks increasing

end Stamps

end Session

/-! ## Benches -/

namespace Bench

/-- A step writes the registers. -/
inductive Overrides (b : Bench) : Step → Prop where
  | write (r : Registers) : Overrides b (.request (.writeRegisters r))
  | snapshot {text : String} {r : Registers} (read : Registers.ofText text = .ok r) :
      Overrides b (.request (.writeSnapshot text))

theorem not_overrides {b : Bench} {r : Request} (noWrite : ∀ r', r ≠ .writeRegisters r')
    (noSnapshot : ∀ text, r ≠ .writeSnapshot text) : ¬ b.Overrides (.request r) := by
  intro writes
  cases writes with
  | write r' => exact noWrite r' rfl
  | snapshot _ => exact noSnapshot _ rfl

/-- An event never writes the registers. -/
theorem registers_notMem_eventChanges (h : Host) (read : FileReader) (e : HostEvent)
    (r : Registers) : Change.registers r ∉ h.eventChanges read e := by
  intro writes
  cases e with
  | key c state =>
    obtain ⟨k, same⟩ := Host.mem_keyChanges writes
    cases same
  | reload =>
    obtain ⟨program, same⟩ := Host.mem_reloadChanges writes
    cases same
  | reset => simp [Host.eventChanges] at writes
  | start => cases writes
  | dumpRegisters => cases writes
  | quit => cases writes

/-- Only what overrides the registers changes them so. -/
theorem overrides_of_registers {b : Bench} {s : Step} {r : Registers}
    (writes : Change.registers r ∈ b.stepChanges s) : b.Overrides s := by
  cases s with
  | request request =>
    simp only [stepChanges] at writes
    cases request with
    | writeRegisters r' => exact .write r'
    | writeSnapshot text =>
      simp only [changes] at writes
      cases read : Registers.ofText text with
      | error e =>
        rw [read] at writes
        cases writes
      | ok r' => exact .snapshot read
    | loadFrom source =>
      simp only [changes] at writes
      cases failure : source.failure with
      | some e =>
        rw [failure] at writes
        cases writes
      | none =>
        rw [failure] at writes
        cases List.mem_singleton.mp writes
    | openFile path =>
      obtain ⟨program, same⟩ := Host.mem_fileChanges writes
      cases same
    | loadFile path =>
      obtain ⟨program, same⟩ := Host.mem_fileChanges writes
      cases same
    | reload =>
      obtain ⟨program, same⟩ := Host.mem_reloadChanges writes
      cases same
    | key c state =>
      obtain ⟨k, same⟩ := Host.mem_keyChanges writes
      cases same
    | event e => exact absurd writes (registers_notMem_eventChanges _ _ e r)
    | keyboard e now =>
      simp only [changes] at writes
      cases means : (e.meaning b.hold now).value.1 with
      | none =>
        rw [means] at writes
        cases writes
      | some asked =>
        rw [means] at writes
        exact absurd writes (registers_notMem_eventChanges _ _ asked r)
    | expire now =>
      simp only [changes] at writes
      cases hold : b.hold with
      | none =>
        rw [hold] at writes
        cases writes
      | some h =>
        rw [hold] at writes
        obtain ⟨c, _, key⟩ := List.mem_flatMap.mp writes
        obtain ⟨k, same⟩ := Host.mem_keyChanges key
        cases same
    | _ => simp [changes] at writes
  | refresh pump now =>
    simp only [stepChanges, refreshChanges] at writes
    split at writes
    · simp at writes
    · cases writes
  | run pump script => cases writes
  | addPump => cases writes
  | setDisplay d => cases writes

/-- Single steps that advance the machine to whole milliseconds, by refreshes of an armed
or running pump, and otherwise do nothing that the timers depend on. -/
inductive Timed : Bench → List Step → List Stamp → Prop where
  | nil {b : Bench} : Timed b [] []
  | tick {b : Bench} {pump : Nat} {t : Stamp} {steps : List Step} {ts : List Stamp}
      (admitted : b.host.control.admits = true)
      (rest : Timed (b.perform (.refresh pump t.time)).2 steps ts) :
      Timed b (.refresh pump t.time :: steps) (t :: ts)
  | request {b : Bench} {r : Request} {steps : List Step} {ts : List Stamp}
      (noAdvance : ∀ now, r ≠ .advanceTo now) (noCut : ¬ b.Cuts r)
      (noWrite : ¬ b.Overrides (.request r)) (rest : Timed (b.perform (.request r)).2 steps ts) :
      Timed b (.request r :: steps) ts
  | addPump {b : Bench} {steps : List Step} {ts : List Stamp} (rest : Timed b.addPump steps ts) :
      Timed b (.addPump :: steps) ts
  | setDisplay {b : Bench} {d : Display} {steps : List Step} {ts : List Stamp}
      (rest : Timed { b with display := d } steps ts) : Timed b (.setDisplay d :: steps) ts

theorem marks_of_quiet {b : Bench} {r : Request} (noAdvance : ∀ now, r ≠ .advanceTo now)
    (noCut : ¬ b.Cuts r) : b.marks (.request r) = [] := by
  have marked := b.marked r
  generalize b.marks (.request r) = left at marked
  cases marked with
  | advanced now => exact absurd rfl (noAdvance now)
  | cut cuts => exact absurd cuts noCut
  | none _ _ => rfl

/-- The changes of such steps are advances to the stamps, and none of them writes
registers. -/
theorem Timed.changes {b : Bench} {steps : List Step} {ts : List Stamp} (timed : b.Timed steps ts) :
    b.timeline steps = (ts.map fun t => .advanced t.time) ∧
      ∀ r, Change.registers r ∉ b.allChanges steps := by
  induction timed with
  | nil => exact ⟨rfl, fun r => List.not_mem_nil⟩
  | @tick b pump t steps ts admitted rest ih =>
    have mark : b.marks (.refresh pump t.time) = [.advanced t.time] := by
      rw [marks_refresh, if_pos admitted]
    refine ⟨by rw [timeline_cons, mark, ih.1]; rfl, fun r inside => ?_⟩
    obtain here | later := List.mem_append.mp inside
    · cases overrides_of_registers here
    · exact ih.2 r later
  | request noAdvance noCut noWrite rest ih =>
    refine ⟨by rw [timeline_cons, marks_of_quiet noAdvance noCut, ih.1]; rfl, fun r inside => ?_⟩
    obtain here | later := List.mem_append.mp inside
    · exact noWrite (overrides_of_registers here)
    · exact ih.2 r later
  | addPump rest ih => exact ih
  | setDisplay rest ih => exact ih

theorem Timed.keptTime {b : Bench} {steps : List Step} {past ts : List Stamp}
    (timed : b.Timed (b.unrolledAll steps) ts) {registers : Registers}
    (kept : b.host.session.KeptTime registers past) (increasing : Increasing (past ++ ts)) :
    (b.after steps).host.session.KeptTime registers (past ++ ts) := by
  obtain ⟨marks, noWrite⟩ := timed.changes
  rw [← after_unrolledAll, session_after_single fun s part => isSingle_unrolledAll part]
  exact kept.changeAll noWrite marks increasing

/-- The timers count the time of the host, however it is cut into refreshes.  After a
load that succeeds and a write of the registers, the timers are down by the whole periods
between the first refresh and the last one, and stop at zero. -/
theorem timers_count_host_time {b : Bench} {r : Request} (loads : r.Loads)
    (done : (b.answer r).value.1 = .nothing) (pause : List Step) (registers : Registers)
    (steps : List Step) (t₀ : Stamp) (ts : List Stamp) :
    let loaded := (b.perform (.request r)).2
    let written := ((loaded.after pause).perform (.request (.writeRegisters registers))).2
    loaded.Timed (loaded.unrolledAll pause) [] →
      written.Timed (written.unrolledAll steps) (t₀ :: ts) →
      Increasing (t₀ :: ts) →
      let final := (written.after steps).host.registers
      let periods := 1000 * ((ts.getLastD t₀).millis - t₀.millis).toNat / 16667
      final.dt.toNat = registers.dt.toNat - min registers.dt.toNat periods ∧
        final.st.toNat = registers.st.toNat - min registers.st.toNat periods := by
  intro loaded written waits timed increasing final periods
  obtain ⟨program, fresh⟩ : ∃ program, loaded.host.session =
      { machine := b.host.session.machine.loaded program } := by
    obtain ⟨_, program, _, fresh⟩ | ⟨⟨e, failed⟩, _⟩ := b.load_cases loads
    · exact ⟨program, fresh⟩
    · cases done.symm.trans failed
  have kept : loaded.host.session.KeptTime loaded.host.registers [] := by
    show loaded.host.session.KeptTime loaded.host.session.machine.registers []
    rw [fresh]
    exact ⟨rfl, ⟨by rw [Machine.timerDebt_loaded]; rfl, rfl, rfl⟩⟩
  have paused : (loaded.after pause).host.session.KeptTime loaded.host.registers [] :=
    waits.keptTime kept (by simp [Increasing])
  have start : written.host.session.KeptTime registers [] :=
    ⟨paused.baseline, ⟨paused.counted.debt, rfl, rfl⟩⟩
  obtain ⟨_, _, counted, counted'⟩ := timed.keptTime start increasing
  have dt : final.dt.toNat = registers.dt.toNat - periods := counted
  have st : final.st.toNat = registers.st.toNat - periods := counted'
  exact ⟨by omega, by omega⟩

/-- A hundred milliseconds are five periods, with a key event, a refused load and a failed
draw in between. -/
theorem timers_count_host_time_of_failed_draw :
    let b : Bench := default
    let t₀ : Stamp := .ofInt 0 (by decide)
    let t₁ : Stamp := .ofInt 35 (by decide)
    let t₂ : Stamp := .ofInt 100 (by decide)
    let failing : Display := { conduct := fun _ => { failure := some (.custom .invalidInput "dark") } }
    let oversized : Bytes := Array.replicate 3233 0
    let steps : List Step :=
      [.request .start, .refresh 0 t₀.time, .request (.key 'w' .pressed),
        .request (.load oversized), .setDisplay failing, .refresh 0 t₁.time,
        .refresh 0 t₂.time]
    let written := ((b.perform (.request (.load #[0x12, 0x00]))).2.perform
      (.request (.writeRegisters { dt := 10, st := 2 }))).2
    let final := (written.after steps).host.registers
    final.dt.toNat = 5 ∧ final.st.toNat = 0 := by
  intro b t₀ t₁ t₂ failing oversized steps written final
  have refused (here : Bench) : ¬ here.Cuts (.load oversized) := by
    have meets : here.failure? (.load oversized) = some (.oversized ⟨3233, 3232⟩) := by
      simp only [failure?, fitting, oversized, Array.size_replicate]
      rfl
    rw [cuts_load_iff (.load oversized), (here.answer_failed_iff _ _).mpr meets]
    simp
  let started := (written.perform (.request .start)).2
  let first := (started.perform (.refresh 0 t₀.time)).2
  let typed := (first.perform (.request (.key 'w' .pressed))).2
  let later := (typed.perform (.request (.load oversized))).2
  have armed : started.host.control.admits = true := by rfl
  have running := control_refresh_running (b := started) 0 t₀.time armed rfl
  have typing := control_request_quiet (b := first) (r := .key 'w' .pressed) rfl
  have loading := control_request_quiet (b := typed) (r := .load oversized) rfl
  have goesOn : later.host.control.admits = true := by
    rw [loading, typing, running]
    rfl
  have dark (here : Bench) (admits : here.host.control.admits = true) :
      here.Timed [.setDisplay failing, .refresh 0 t₁.time, .refresh 0 t₂.time] [t₁, t₂] := by
    refine .setDisplay (.tick admits (.tick ?_ .nil))
    rw [control_refresh_running (b := { here with display := failing }) 0 t₁.time admits rfl]
    rfl
  have timed : written.Timed (written.unrolledAll steps) [t₀, t₁, t₂] := by
    refine .request (by simp) (not_cuts_of_not_mayMark rfl) (not_overrides (by simp) (by simp)) ?_
    refine .tick armed ?_
    refine .request (by simp) (not_cuts_of_not_mayMark rfl) (not_overrides (by simp) (by simp)) ?_
    exact .request (by simp) (refused _) (not_overrides (by simp) (by simp)) (dark later goesOn)
  have increasing : Increasing [t₀, t₁, t₂] := by simp [Increasing, t₀, t₁, t₂, Stamp.ofInt]
  obtain ⟨dt, st⟩ := timers_count_host_time (b := b) (.load #[0x12, 0x00]) (by rfl) []
    { dt := 10, st := 2 } steps t₀ [t₁, t₂] .nil timed increasing
  exact ⟨dt.trans (by decide), st.trans (by decide)⟩

end Bench

end VipHost
