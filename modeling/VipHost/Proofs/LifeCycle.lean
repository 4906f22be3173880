import VipHost.Proofs.Changes
import VipHost.Proofs.Unrolling

/-!
# The life cycle of the control

The control of a host goes from idle to armed by a start, from armed to running
by a refresh, and to stopped by a cancel.  `Bench.ControlMove` lists what a single
step can do to it, and `Bench.controlMove` says that every single step does one of
these.  Requests reach the control by a call (`Bench.controlCall?`), refreshes by
claiming it, and a display may cancel while it draws.

Nothing leaves stopped and nothing returns to idle.  So at most one start takes
effect, and a refresh before it or after a stop is refused, which changes nothing
at all (`Bench.perform_refresh_refused`).
-/

namespace VipHost

/-- A call to the control. -/
inductive ControlCall where
  | start
  | cancel
deriving DecidableEq

/-- The call that an event makes. -/
def HostEvent.controlCall? : HostEvent → Option ControlCall
  | .start => some .start
  | .quit => some .cancel
  | _ => none

namespace PumpState

/-- The control after a call, if there is one. -/
def called (s : PumpState) : Option ControlCall → PumpState
  | none => s
  | some .start => s.start.value.2
  | some .cancel => s.cancel.value

/-- Only an idle control is armed by a start. -/
theorem value_start (s : PumpState) :
    s.start.value = if s = .idle then (true, .armed) else (false, s) := by
  cases s with
  | idle => rfl
  | armed => rfl
  | running => rfl
  | stopped => rfl

theorem admits_iff (s : PumpState) : s.admits = true ↔ s = .armed ∨ s = .running := by
  cases s with
  | idle => simp [admits]
  | armed => simp [admits]
  | running => simp [admits]
  | stopped => simp [admits]

theorem admits_eq_false_iff (s : PumpState) : s.admits = false ↔ s = .idle ∨ s = .stopped := by
  cases s with
  | idle => simp [admits]
  | armed => simp [admits]
  | running => simp [admits]
  | stopped => simp [admits]

end PumpState

/-! ## Hosts -/

namespace Host

theorem control_loaded (h : Host) (program : Bytes) : (h.loaded program).control = h.control := by
  unfold loaded
  rfl

theorem control_loadFile (h : Host) (read : FileReader) (path : String) :
    (h.loadFile read path).value.2.control = h.control := by
  unfold loadFile
  cases read path with
  | error e => rfl
  | ok program => rfl

theorem control_openFile (h : Host) (read : FileReader) (path : String) :
    (h.openFile read path).value.2.control = h.control := by
  rw [← control_loadFile h read path]
  simp only [openFile, Logged.value_bind]
  cases (h.loadFile read path).value.1 with
  | error e => rfl
  | ok done => rfl

theorem control_reload (h : Host) (read : FileReader) :
    (h.reload read).value.2.control = h.control := by
  unfold reload
  cases h.programPath with
  | none => rfl
  | some path => exact control_loadFile h read path

theorem control_keyEvent (h : Host) (c : Char) (state : KeyState) :
    (h.keyEvent c state).value.2.control = h.control := by
  unfold keyEvent
  cases h.layout.key? c with
  | none => rfl
  | some k => rfl

theorem control_handle (h : Host) (read : FileReader) (e : HostEvent) :
    (h.handle read e).value.2.control = h.control.called e.controlCall? := by
  cases e with
  | key c state => exact control_keyEvent h c state
  | start => rfl
  | reset =>
    have fresh : (h.handle read .reset).value.2 = h.loaded #[] := value_reset h
    rw [fresh, control_loaded]
    rfl
  | reload =>
    rw [value_handle_reload, control_reload]
    rfl
  | dumpRegisters => rfl
  | quit => rfl

end Host

namespace Bench

/-! ## Calls -/

/-- The call that a request makes to the control. -/
def controlCall? (b : Bench) : Request → Option ControlCall
  | .start => some .start
  | .cancel => some .cancel
  | .event e => e.controlCall?
  | .keyboard e now => (e.meaning b.hold now).value.1.bind HostEvent.controlCall?
  | _ => none

theorem control_releaseAll (b : Bench) (cs : List Char) :
    (b.releaseAll cs).value.host.control = b.host.control := by
  induction cs generalizing b with
  | nil => rfl
  | cons c cs ih =>
    simp only [releaseAll, Logged.value_bind]
    rw [ih]
    exact Host.control_handle b.host b.files.read (.key c .released)

/-- The control after a request is the control after its call. -/
theorem control_answer (b : Bench) (r : Request) :
    (b.answer r).value.2.host.control = b.host.control.called (b.controlCall? r) := by
  cases r with
  | load program => rfl
  | loadFrom source =>
    simp only [answer, Logged.value_bind, Host.loadFrom]
    cases source.failure with
    | none => rfl
    | some e => rfl
  | openFile path => exact Host.control_openFile b.host b.files.read path
  | loadFile path => exact Host.control_loadFile b.host b.files.read path
  | reload =>
    have kept := Host.control_reload b.host b.files.read
    simp only [answer, Logged.value_bind]
    generalize (b.host.reload b.files.read).value = r at kept
    obtain ⟨result, h⟩ := r
    cases result with
    | error e => exact kept
    | ok loaded => exact kept
  | key c state => exact Host.control_keyEvent b.host c state
  | event e => exact Host.control_handle b.host b.files.read e
  | keyboard e now =>
    simp only [answer, controlCall?, Logged.value_bind]
    obtain ⟨asked, hold⟩ := (e.meaning b.hold now).value
    cases asked with
    | none => rfl
    | some asked => exact Host.control_handle b.host b.files.read asked
  | expire now =>
    simp only [answer]
    cases b.hold with
    | none => rfl
    | some hold => exact control_releaseAll { b with hold := some (hold.expire now).2 } _
  | holdPress c now =>
    simp only [answer]
    cases b.hold with
    | none => rfl
    | some hold => rfl
  | writeSnapshot text =>
    simp only [answer, Logged.value_bind, Host.writeSnapshot]
    cases Registers.ofText text with
    | error e => rfl
    | ok r => rfl
  | poke start data =>
    simp only [answer]
    cases b.host.session.machine.memory.write? start data with
    | none => rfl
    | some memory => rfl
  | reset =>
    have fresh : (b.answer .reset).value.2.host = b.host.loaded #[] := Host.value_reset b.host
    rw [fresh, Host.control_loaded]
    rfl
  | start => rfl
  | cancel => rfl
  | writeFile path contents => rfl
  | removeFile path => rfl
  | isCancelled => rfl
  | layout => rfl
  | isHeld c => rfl
  | holdClear => rfl
  | readRegisters => rfl
  | writeRegisters r => rfl
  | dumpRegisters => rfl
  | peek start len => rfl
  | invalidate => rfl
  | advanceTo now => rfl
  | frame => rfl
  | frameSize => rfl
  | seed => rfl

/-- A request that makes no call leaves the control as it is. -/
theorem control_request_quiet {b : Bench} {r : Request} (quiet : b.controlCall? r = none) :
    (b.perform (.request r)).2.host.control = b.host.control := by
  have moved : (b.perform (.request r)).2.host.control = _ := b.control_answer r
  rw [moved, quiet]
  rfl

/-! ## Refreshes -/

theorem afterTick_refused (b : Bench) (pump : Nat) : b.afterTick pump .refused b.stage = b := by
  have same : b.pumps.modify pump (· + 0) = b.pumps := by
    apply Array.ext
    · simp
    · intro i _ _
      simp [Array.getElem_modify]
  simp only [afterTick, stage, Ticked.frames, same]

/-- A refresh that finds the control idle or stopped is refused, and changes
nothing. -/
theorem perform_refresh_refused {b : Bench} (pump : Nat) (now : Binary64)
    (refused : b.host.control.admits = false) :
    b.perform (.refresh pump now) = (.ticked .refused, b) := by
  simp only [perform, tick, Logged.value_bind, Logged.value_pure,
    Stage.value_tick_refused b.stage now refused, afterTick_refused]
  rfl

/-- An admitted refresh is drawn.  It advances the session, and leaves the control running
unless the display cancels. -/
theorem perform_refresh_admitted {b : Bench} (pump : Nat) (now : Binary64)
    (admitted : b.host.control.admits = true) :
    let advanced := (b.host.session.advanceTo now).value
    let done := b.perform (.refresh pump now)
    (∃ d : Drawn, done.1 = .ticked (d.ticked advanced.1)) ∧
      done.2.host.session = advanced.2 ∧
      done.2.host.control = if b.display.nextCancels then .stopped else .running := by
  simp only [perform, tick, Logged.value_bind, Logged.value_pure, afterTick,
    Stage.value_tick_admitted b.stage now admitted, Stage.value_present]
  exact ⟨⟨_, rfl⟩, rfl, rfl⟩

/-- A pump that is not cancelled by its display goes on running. -/
theorem control_refresh_running {b : Bench} (pump : Nat) (now : Binary64)
    (admitted : b.host.control.admits = true) (keeps : b.display.nextCancels = false) :
    (b.perform (.refresh pump now)).2.host.control = .running := by
  obtain ⟨_, _, moved⟩ := perform_refresh_admitted pump now admitted
  rw [moved, if_neg (by simp [keeps])]

/-! ## What a step does to the control -/

/-- A step is a start that takes effect. -/
def Arms (b : Bench) (s : Step) : Prop :=
  ∃ r, s = .request r ∧ b.controlCall? r = some .start ∧ b.host.startPumps.value.1 = true

/-- A step is a refresh that claims an armed control. -/
def Claims (b : Bench) (s : Step) : Prop :=
  ∃ pump now, s = .refresh pump now ∧ b.host.control = .armed

/-- A step cancels: a request asks for it, or a display does while it draws. -/
inductive Stops (b : Bench) : Step → Prop where
  | request {r : Request} (asks : b.controlCall? r = some .cancel) : Stops b (.request r)
  | draw {pump : Nat} {now : Binary64} (admitted : b.host.control.admits = true)
      (cancels : b.display.nextCancels = true) : Stops b (.refresh pump now)

/-- What a single step does to the control. -/
inductive ControlMove (b : Bench) (s : Step) : PumpState → Prop where
  | stays (noStart : ¬ b.Arms s) (noClaim : ¬ b.Claims s) (noStop : ¬ b.Stops s) :
      ControlMove b s b.host.control
  | armed (arms : b.Arms s) (was : b.host.control = .idle) : ControlMove b s .armed
  | running (claims : b.Claims s) (noStop : ¬ b.Stops s) : ControlMove b s .running
  | stopped (stops : b.Stops s) : ControlMove b s .stopped

theorem startPumps_iff (b : Bench) :
    b.host.startPumps.value.1 = true ↔ b.host.control = .idle := by
  have started : b.host.startPumps.value.1 = b.host.control.start.value.1 := rfl
  rw [started, PumpState.value_start]
  split
  next idle => simp [idle]
  next busy => simp [busy]

theorem controlMove_request (b : Bench) (r : Request) :
    b.ControlMove (.request r) (b.answer r).value.2.host.control := by
  rw [control_answer]
  have noClaim : ¬ b.Claims (.request r) := by
    rintro ⟨pump, now, same, _⟩
    cases same
  cases call : b.controlCall? r with
  | none =>
    refine .stays ?_ noClaim ?_
    · rintro ⟨r', same, starts, _⟩
      cases same
      cases call.symm.trans starts
    · rintro (asks | _)
      cases call.symm.trans asks
  | some c =>
    cases c with
    | start =>
      by_cases idle : b.host.control = .idle
      · have armed : b.host.control.called (some .start) = .armed := by rw [idle]; rfl
        rw [armed]
        exact .armed ⟨r, rfl, call, b.startPumps_iff.mpr idle⟩ idle
      · have kept : b.host.control.called (some .start) = b.host.control := by
          rw [PumpState.called, PumpState.value_start, if_neg idle]
        rw [kept]
        refine .stays ?_ noClaim ?_
        · rintro ⟨_, _, _, started⟩
          exact idle (b.startPumps_iff.mp started)
        · rintro (asks | _)
          cases call.symm.trans asks
    | cancel =>
      rw [PumpState.called, PumpState.value_cancel]
      exact .stopped (.request call)

theorem controlMove_refresh (b : Bench) (pump : Nat) (now : Binary64) :
    b.ControlMove (.refresh pump now) (b.perform (.refresh pump now)).2.host.control := by
  have noStart : ¬ b.Arms (.refresh pump now) := by
    rintro ⟨r, same, _⟩
    cases same
  cases admitted : b.host.control.admits with
  | false =>
    rw [perform_refresh_refused pump now admitted]
    refine .stays noStart ?_ ?_
    · rintro ⟨_, _, _, armed⟩
      rw [armed] at admitted
      cases admitted
    · rintro (_ | ⟨admits, _⟩)
      cases admitted.symm.trans admits
  | true =>
    obtain ⟨_, _, moved⟩ := perform_refresh_admitted pump now admitted
    rw [moved]
    cases cancels : b.display.nextCancels with
    | true => exact .stopped (.draw admitted cancels)
    | false =>
      have noStop : ¬ b.Stops (.refresh pump now) := by
        rintro (_ | ⟨_, asks⟩)
        cases cancels.symm.trans asks
      by_cases armed : b.host.control = .armed
      · exact .running ⟨pump, now, rfl, armed⟩ noStop
      · have running : b.host.control = .running :=
          ((PumpState.admits_iff _).mp admitted).resolve_left armed
        rw [if_neg (by simp), ← running]
        refine .stays noStart ?_ noStop
        rintro ⟨_, _, _, was⟩
        exact armed was

/-- Every single step does one of these to the control. -/
theorem controlMove {s : Step} (single : s.isSingle = true) (b : Bench) :
    b.ControlMove s (b.perform s).2.host.control := by
  have away : ∀ s, (∀ r, s ≠ .request r) → (∀ pump now, s ≠ .refresh pump now) →
      b.ControlMove s b.host.control := by
    intro s noRequest noRefresh
    refine .stays ?_ ?_ ?_
    · rintro ⟨r, same, _⟩
      exact noRequest r same
    · rintro ⟨pump, now, same, _⟩
      exact noRefresh pump now same
    · intro stops
      cases stops with
      | request _ => exact noRequest _ rfl
      | draw _ _ => exact noRefresh _ _ rfl
  cases s with
  | request r => exact b.controlMove_request r
  | refresh pump now => exact b.controlMove_refresh pump now
  | run pump script => cases single
  | addPump => exact away .addPump (by simp) (by simp)
  | setDisplay d => exact away (.setDisplay d) (by simp) (by simp)

/-! ## No way back -/

/-- Nothing leaves stopped. -/
theorem stopped_perform {s : Step} (single : s.isSingle = true) {b : Bench}
    (stopped : b.host.control = .stopped) : (b.perform s).2.host.control = .stopped := by
  have move := b.controlMove single
  generalize (b.perform s).2.host.control = next at move
  cases move with
  | stays _ _ _ => exact stopped
  | armed _ was => cases was.symm.trans stopped
  | running claims _ =>
    obtain ⟨_, _, _, armed⟩ := claims
    cases armed.symm.trans stopped
  | stopped _ => rfl

/-- Nothing returns to idle. -/
theorem not_idle_perform {s : Step} (single : s.isSingle = true) {b : Bench}
    (started : b.host.control ≠ .idle) : (b.perform s).2.host.control ≠ .idle := by
  have move := b.controlMove single
  generalize (b.perform s).2.host.control = next at move
  cases move with
  | stays _ _ _ => exact started
  | armed _ _ => simp
  | running _ _ => simp
  | stopped _ => simp

theorem not_arms_of_not_idle {b : Bench} (started : b.host.control ≠ .idle) (s : Step) :
    ¬ b.Arms s := by
  rintro ⟨_, _, _, arms⟩
  exact started (b.startPumps_iff.mp arms)

/-- After a start that took effect no other does. -/
theorem never_arms_again {steps : List Step} (single : ∀ s ∈ steps, s.isSingle = true) {b : Bench}
    (started : b.host.control ≠ .idle) : Never Arms b steps :=
  never_of_kept (fun _ s here => not_idle_perform (single s here))
    (fun _ s _ busy => not_arms_of_not_idle busy s) started

/-- Before a start takes effect the control is idle or stopped. -/
theorem waits_of_never_arms {steps : List Step} (single : ∀ s ∈ steps, s.isSingle = true)
    {b : Bench} (waits : b.host.control.admits = false) (unarmed : Never Arms b steps) :
    (b.after steps).host.control.admits = false := by
  induction steps generalizing b with
  | nil => exact waits
  | cons s steps ih =>
    obtain ⟨noStart, later⟩ := never_cons.mp unarmed
    refine ih (fun t ht => single t (.tail _ ht)) ?_ later
    have move := b.controlMove (single s (.head _))
    generalize (b.perform s).2.host.control = next at move
    cases move with
    | stays _ _ _ => exact waits
    | armed arms _ => exact absurd arms noStart
    | running claims _ =>
      obtain ⟨_, _, _, armed⟩ := claims
      rw [armed] at waits
      cases waits
    | stopped _ => rfl

/-- The life cycle of the control of a fresh host.  With all runs unrolled, each
step moves the control as `ControlMove` says: from idle to armed by a start, from
armed to running by a refresh, to stopped by a cancel, and otherwise not at all.
Stopped is never left, and of all starts at most one takes effect.  A refresh that
finds the control idle or stopped is refused and changes nothing, and this is so
before that one start and after every stop.  A run cancels the control by itself
only after a failed draw or over a display of the wrong size. -/
theorem control_life_cycle (w : Bench) (seed : UInt64) (layout : Layout) (steps : List Step) :
    let b : Bench := { w with host := (Host.start seed layout).value }
    let flat := b.unrolledAll steps
    b.after flat = b.after steps ∧
      (∀ before s rest, flat = before ++ s :: rest →
        let here := b.after before
        let next := (here.perform s).2
        here.ControlMove s next.host.control ∧
          (here.host.control = .stopped → next.host.control = .stopped) ∧
          (here.Arms s → Never Arms next rest) ∧
          (Never Arms b before → here.host.control = .idle ∨ here.host.control = .stopped) ∧
          (here.host.control = .idle ∨ here.host.control = .stopped →
            ∀ pump now, here.perform (.refresh pump now) = (.ticked .refused, here))) ∧
      ∀ (here : Bench) pump script e, (here.run pump script).value.1.ending = .failed e →
        (here.run pump script).value.2.host.control = .stopped ∧
          (here.display.resolution ≠ here.host.session.frameSize ∧
              here.usedCues pump script = [] ∨
            ∃ before now, here.usedCues pump script = before ++ [.refresh now] ∧
              ((here.after (before.map (Cue.step pump))).tick pump now).value.1 = .failed e) := by
  intro b flat
  have single : ∀ s ∈ flat, s.isSingle = true := fun s part => isSingle_unrolledAll part
  refine ⟨b.after_unrolledAll steps, ?_, ?_⟩
  · intro before s rest split here next
    have now : s.isSingle = true := single s (by simp [split])
    refine ⟨here.controlMove now, stopped_perform now, ?_, ?_, ?_⟩
    · rintro ⟨r, rfl, call, started⟩
      have armed : next.host.control = .armed := by
        have called : next.host.control = _ := here.control_answer r
        rw [called, call, here.startPumps_iff.mp started]
        rfl
      exact never_arms_again (fun t part => single t (by simp [split, part])) (by simp [armed])
    · intro unarmed
      have waits := waits_of_never_arms (b := b) (fun t part => single t (by simp [split, part]))
        rfl unarmed
      exact (PumpState.admits_eq_false_iff _).mp waits
    · intro waits pump now
      exact perform_refresh_refused pump now ((PumpState.admits_eq_false_iff _).mpr waits)
  · intro here pump script e failed
    refine ⟨?_, run_failed failed⟩
    have same := here.after_unrolled (.run pump script)
    rw [unrolled, failed, after_append] at same
    have ran : (here.run pump script).value.2 = (here.perform (.run pump script)).2 := rfl
    rw [ran, ← same]
    exact PumpState.value_cancel _

/-- A run is cancelled while it waits.  The start after it takes no effect, and
neither does a refresh. -/
theorem control_life_cycle_of_cancelled_run :
    let now : Binary64 := ⟨0x3ff0000000000000⟩
    let b : Bench := { (default : Bench) with host := (Host.start 42 .conventional).value }
    let steps : List Step :=
      [.request .start, .run 0 [.refresh now, .request .cancel, .refresh now], .request .start]
    let before : List Step :=
      [.request .start, .refresh 0 now, .request .cancel, .refresh 0 now]
    let here := b.after before
    b.unrolledAll steps = before ++ [.request .start] ∧
      here.host.control = .stopped ∧
      (here.perform (.request .start)).2.host.control = .stopped ∧
      here.perform (.refresh 0 now) = (.ticked .refused, here) := by
  intro now b steps before here
  have split : b.unrolledAll steps = before ++ .request .start :: [] := by rfl
  have stopped : here.host.control = .stopped := by rfl
  obtain ⟨_, each, _⟩ := control_life_cycle default 42 .conventional steps
  obtain ⟨_, final, _, _, refused⟩ := each before (.request .start) [] split
  exact ⟨split, stopped, final stopped, refused (.inr stopped) 0 now⟩

end Bench

end VipHost
