import Mathlib.Logic.Function.Basic
import VipHost.Proofs.LifeCycle

/-!
# Refreshes step by step

A refresh is not one step.  It reads the control, claims it if it is armed, waits for the
session, looks at the control again, advances the machine and draws.  On a *floor* several
pumps do this at once, on one control and one session, each refresh with a display.
Between any two of these steps there may be a start or a cancel, or the next step of
another pump.  Whoever else works with the session takes it first and gives it back when
done.

The steps of a refresh that nobody interrupts come to `Stage.tick`
(`Floor.tick_uninterrupted`), and those of one that is cancelled while it waits for the
session come to `Bench.cancelWhileWaiting` (`Floor.cancelWhileWaiting_eq`).

Whatever the order of the moves, the session is held by one at most (`Floor.Sound`), and
the control only moves as `Floor.ControlMove` says.
-/

namespace VipHost

/-- Where a refresh stands. -/
inductive Place where
  | called
  /-- It found the control armed. -/
  | claiming
  /-- It goes on when it gets the session. -/
  | waiting
  /-- It holds the session and has to look at the control again. -/
  | checking
  /-- It holds the session, and was not cancelled when it looked. -/
  | passed
  /-- It holds the session, and the machine is advanced. -/
  | advanced (elapsed : UInt64)
deriving DecidableEq

namespace Place

/-- Whether the refresh holds the session. -/
def holds : Place → Bool
  | .checking => true
  | .passed => true
  | .advanced _ => true
  | _ => false

/-- Whether the refresh is past its last look at the control. -/
def isPast : Place → Bool
  | .passed => true
  | .advanced _ => true
  | _ => false

theorem holds_of_isPast {place : Place} (past : place.isPast = true) : place.holds = true := by
  cases place with
  | passed => rfl
  | advanced elapsed => rfl
  | called => cases past
  | claiming => cases past
  | waiting => cases past
  | checking => cases past

end Place

/-- A refresh that is under way. -/
structure Refreshing where
  now : Binary64
  /-- The display it draws on. -/
  display : Nat
  place : Place := .called
deriving DecidableEq

/-- Who holds the session. -/
inductive Holder where
  | pump (p : Nat)
  | other
deriving DecidableEq

/-- A host with its pumps at work. -/
structure Floor where
  session : Session
  control : PumpState := .idle
  displays : Nat → Display := fun _ => {}
  holder : Option Holder := none
  /-- The refresh that each pump is busy with. -/
  work : Nat → Option Refreshing := fun _ => none

/-- One move on the floor. -/
inductive Move where
  /-- A pump is called for a refresh. -/
  | call (p : Nat) (now : Binary64) (display : Nat)
  /-- A pump takes the next step of its refresh. -/
  | go (p : Nat)
  | start
  | cancel
  /-- Somebody else takes the session. -/
  | enter
  | change (c : Change)
  | leave

/-- What comes of a move. -/
inductive Report where
  | nothing
  /-- Not possible now. -/
  | blocked
  | started (effective : Bool)
  /-- A refresh ended. -/
  | ticked (t : Ticked)
deriving DecidableEq

namespace Report

/-- How a refresh ended, if one did. -/
def ended? : Report → Option Ticked
  | .ticked t => some t
  | _ => none

/-- Whether a refresh ended that was not refused. -/
def isDrawn : Report → Bool
  | .ticked t => t ≠ .refused
  | _ => false

end Report

namespace Floor

variable {f g : Floor} {p q : Nat} {r : Refreshing}

/-! ## Moves -/

/-- The floor with another refresh, or none, for a pump. -/
def put (f : Floor) (p : Nat) (x : Option Refreshing) : Floor :=
  { f with work := Function.update f.work p x }

/-- The next step of a refresh. -/
def go (f : Floor) (p : Nat) (r : Refreshing) : Report × Floor :=
  match r.place with
  | .called =>
    if f.control.admits then
      let next : Place := if f.control = .armed then .claiming else .waiting
      (.nothing, f.put p (some { r with place := next }))
    else (.ticked .refused, f.put p none)
  | .claiming =>
    (.nothing,
      { f.put p (some { r with place := .waiting }) with control := f.control.claim.value })
  | .waiting =>
    if f.holder = none then
      (.nothing, { f.put p (some { r with place := .checking }) with holder := some (.pump p) })
    else (.blocked, f)
  | .checking =>
    if f.control.isCancelled then (.ticked .refused, { f.put p none with holder := none })
    else (.nothing, f.put p (some { r with place := .passed }))
  | .passed =>
    let advanced := (f.session.advanceTo r.now).value
    (.nothing,
      { f.put p (some { r with place := .advanced advanced.1 }) with session := advanced.2 })
  | .advanced elapsed =>
    let display := f.displays r.display
    let drawn := display.draw f.session.machine.frame
    (.ticked (drawn.1.ticked elapsed),
      { f.put p none with
        control := if display.nextCancels then f.control.cancel.value else f.control
        displays := Function.update f.displays r.display drawn.2
        holder := none })

/-- What comes of a move, and the floor after it. -/
def step (f : Floor) : Move → Report × Floor
  | .call p now display =>
    match f.work p with
    | some _ => (.blocked, f)
    | none => (.nothing, f.put p (some { now, display }))
  | .go p =>
    match f.work p with
    | none => (.blocked, f)
    | some r => f.go p r
  | .start => f.control.start.value.map .started fun control => { f with control }
  | .cancel => (.nothing, { f with control := f.control.cancel.value })
  | .enter =>
    if f.holder = none then (.nothing, { f with holder := some .other }) else (.blocked, f)
  | .change c =>
    if f.holder = some .other then (.nothing, { f with session := f.session.change c })
    else (.blocked, f)
  | .leave =>
    if f.holder = some .other then (.nothing, { f with holder := none }) else (.blocked, f)

theorem step_go_idle (idle : f.work p = none) : f.step (.go p) = (.blocked, f) := by
  simp only [step, idle]

theorem step_go (busy : f.work p = some r) : f.step (.go p) = f.go p r := by
  simp only [step, busy]

/-- What a move can do, whatever the order of the moves. -/
inductive Stepped (f : Floor) : Report → Floor → Prop where
  | blocked : Stepped f .blocked f
  | called {p : Nat} (idle : f.work p = none) (now : Binary64) (display : Nat) :
      Stepped f .nothing (f.put p (some { now, display }))
  | gone {p : Nat} {r : Refreshing} (busy : f.work p = some r) :
      Stepped f (f.go p r).1 (f.go p r).2
  | started :
      Stepped f (.started f.control.start.value.1) { f with control := f.control.start.value.2 }
  | cancelled : Stepped f .nothing { f with control := .stopped }
  | entered (free : f.holder = none) : Stepped f .nothing { f with holder := some .other }
  | changed (c : Change) : Stepped f .nothing { f with session := f.session.change c }
  | left (held : f.holder = some .other) : Stepped f .nothing { f with holder := none }

theorem stepped (f : Floor) (m : Move) : f.Stepped (f.step m).1 (f.step m).2 := by
  cases m with
  | call p now display =>
    rw [step]
    cases busy : f.work p with
    | some r => exact .blocked
    | none => exact .called busy now display
  | go p =>
    rw [step]
    cases busy : f.work p with
    | none => exact .blocked
    | some r => exact .gone busy
  | start => exact .started
  | cancel =>
    rw [step, PumpState.value_cancel]
    exact .cancelled
  | enter =>
    rw [step]
    split
    next free => exact .entered free
    next => exact .blocked
  | change c =>
    rw [step]
    split
    next => exact .changed c
    next => exact .blocked
  | leave =>
    rw [step]
    split
    next held => exact .left held
    next => exact .blocked

/-- The floor after some moves. -/
def after : Floor → List Move → Floor
  | f, [] => f
  | f, m :: moves => (f.step m).2.after moves

/-- What comes of some moves, in order. -/
def reports : Floor → List Move → List Report
  | _, [] => []
  | f, m :: moves => (f.step m).1 :: (f.step m).2.reports moves

@[simp] theorem after_nil (f : Floor) : f.after [] = f := rfl

@[simp] theorem after_cons (f : Floor) (m : Move) (moves : List Move) :
    f.after (m :: moves) = (f.step m).2.after moves := rfl

@[simp] theorem reports_nil (f : Floor) : f.reports [] = [] := rfl

@[simp] theorem reports_cons (f : Floor) (m : Move) (moves : List Move) :
    f.reports (m :: moves) = (f.step m).1 :: (f.step m).2.reports moves := rfl

theorem after_append (f : Floor) (first second : List Move) :
    f.after (first ++ second) = (f.after first).after second := by
  induction first generalizing f with
  | nil => rfl
  | cons m first ih => exact ih (f.step m).2

/-- What every move keeps holds after any moves. -/
theorem after_preserves {P : Floor → Prop} (step : ∀ f m, P f → P (f.step m).2) (hf : P f)
    (moves : List Move) : P (f.after moves) := by
  induction moves generalizing f with
  | nil => exact hf
  | cons m moves ih => exact ih (step f m hf)

/-! ## Whole refreshes -/

/-- The six steps of a refresh that nobody interrupts are the whole refresh.  A pump that
is done earlier has nothing left to do. -/
theorem tick_uninterrupted (free : f.holder = none) (idle : f.work p = none) (now : Binary64)
    (d : Nat) :
    let moves := .call p now d :: List.replicate 6 (.go p)
    let ticked := (Stage.tick ⟨f.session, f.control, f.displays d⟩ now).value
    (f.reports moves).filterMap Report.ended? = [ticked.1] ∧
      f.after moves =
        { f with
          session := ticked.2.session
          control := ticked.2.control
          displays := Function.update f.displays d ticked.2.display } := by
  intro moves ticked
  obtain ⟨session, control, displays, holder, work⟩ := f
  dsimp only at free idle
  subst free
  have back : Function.update work p none = work := by rw [← idle, Function.update_eq_self]
  cases admitted : control.admits with
  | false =>
    have refused : ticked = _ := Stage.value_tick_refused _ now admitted
    rw [refused]
    simp [moves, step, go, put, idle, back, admitted, List.filterMap_cons, Report.ended?]
  | true =>
    have drawn : ticked = _ :=
      (Stage.value_tick_admitted _ now admitted).trans (Stage.value_present _ now)
    rw [drawn]
    obtain rfl | rfl := (PumpState.admits_iff control).mp admitted
    · simp [moves, step, go, put, idle, back, admitted, PumpState.isCancelled,
        List.filterMap_cons, Report.ended?]
    · simp [moves, step, go, put, idle, back, admitted, PumpState.isCancelled,
        List.filterMap_cons, Report.ended?]

/-- Somebody holds the session, a refresh comes up to it, the control is cancelled, and
then the session is given back. -/
theorem cancelWhileWaiting_eq (b : Bench) (displays : Nat → Display)
    {work : Nat → Option Refreshing} (idle : work p = none) (now : Binary64) (d : Nat) :
    let f : Floor := ⟨b.host.session, b.host.control, displays, some .other, work⟩
    let moves : List Move := [.call p now d, .go p, .go p, .cancel, .leave, .go p, .go p]
    let waited := (b.cancelWhileWaiting now).value
    (f.reports moves).filterMap Report.ended? = [waited.1.1] ∧ waited.1.2 = 0 ∧
      f.after moves = ⟨waited.2.host.session, waited.2.host.control, displays, none, work⟩ := by
  intro f moves waited
  have back : Function.update work p none = work := by rw [← idle, Function.update_eq_self]
  cases admitted : b.host.control.admits with
  | false =>
    simp [f, moves, waited, step, go, put, idle, back, admitted, Bench.cancelWhileWaiting,
      Host.cancel, List.filterMap_cons, Report.ended?]
  | true =>
    obtain control | control := (PumpState.admits_iff _).mp admitted
    · simp [f, moves, waited, step, go, put, idle, back, control, PumpState.admits,
        PumpState.isCancelled, Bench.cancelWhileWaiting, Host.cancel,
        Stage.presentUnlessCancelled, List.filterMap_cons, Report.ended?]
    · simp [f, moves, waited, step, go, put, idle, back, control, PumpState.admits,
        PumpState.isCancelled, Bench.cancelWhileWaiting, Host.cancel,
        Stage.presentUnlessCancelled, List.filterMap_cons, Report.ended?]

/-! ## One holder -/

/-- A pump is in the part of its refresh that holds the session. -/
def Holds (f : Floor) (p : Nat) : Prop := ∃ r, f.work p = some r ∧ r.place.holds = true

/-- A pump is past the last look at the control. -/
def IsPast (f : Floor) (p : Nat) : Prop := ∃ r, f.work p = some r ∧ r.place.isPast = true

/-- The pump that holds the session is the one at that part of its refresh. -/
def Sound (f : Floor) : Prop := ∀ p, f.holder = some (.pump p) ↔ f.Holds p

theorem Holds.unique (sound : f.Sound) (hp : f.Holds p) (hq : f.Holds q) : p = q := by
  have same := ((sound p).mpr hp).symm.trans ((sound q).mpr hq)
  cases same
  rfl

theorem IsPast.holds (past : f.IsPast p) : f.Holds p := by
  obtain ⟨r, busy, past⟩ := past
  exact ⟨r, busy, Place.holds_of_isPast past⟩

/-- A floor that differs for one pump only. -/
theorem Sound.of_put (sound : f.Sound) {x : Option Refreshing}
    (work : g.work = Function.update f.work p x)
    (others : ∀ q, q ≠ p → (g.holder = some (.pump q) ↔ f.holder = some (.pump q)))
    (self : g.holder = some (.pump p) ↔ ∃ r, x = some r ∧ r.place.holds = true) : g.Sound := by
  intro q
  by_cases same : q = p
  · subst same
    rw [Holds, work, Function.update_self]
    exact self
  · rw [Holds, work, Function.update_of_ne same]
    exact (others q same).trans (sound q)

theorem not_held_of_idle (sound : f.Sound) (idle : f.work p = none) :
    f.holder ≠ some (.pump p) := by
  intro held
  obtain ⟨r, busy, _⟩ := (sound p).mp held
  cases idle.symm.trans busy

theorem not_held_of_place (sound : f.Sound) (busy : f.work p = some r)
    (free : r.place.holds = false) : f.holder ≠ some (.pump p) := by
  intro held
  obtain ⟨r', busy', holds⟩ := (sound p).mp held
  cases busy.symm.trans busy'
  cases free.symm.trans holds

/-- A pump without the session takes a step that does not need it. -/
theorem Sound.put_free (sound : f.Sound) (notHeld : f.holder ≠ some (.pump p))
    {x : Option Refreshing} (free : ∀ r, x = some r → r.place.holds = false)
    (work : g.work = Function.update f.work p x) (holder : g.holder = f.holder) : g.Sound := by
  refine sound.of_put work (fun q _ => by rw [holder]) ?_
  rw [holder]
  constructor
  · intro held
    exact absurd held notHeld
  · intro ⟨r, same, holds⟩
    cases (free r same).symm.trans holds

/-- A pump takes the session. -/
theorem Sound.put_taking (sound : f.Sound) (free : f.holder = none) {next : Refreshing}
    (holds : next.place.holds = true) (work : g.work = Function.update f.work p (some next))
    (holder : g.holder = some (.pump p)) : g.Sound := by
  refine sound.of_put work ?_ ?_
  · intro q other
    rw [holder, free]
    simp [Ne.symm other]
  · rw [holder]
    exact ⟨fun _ => ⟨next, rfl, holds⟩, fun _ => rfl⟩

/-- A pump goes on with the session. -/
theorem Sound.put_holding (sound : f.Sound) (held : f.holder = some (.pump p)) {next : Refreshing}
    (holds : next.place.holds = true) (work : g.work = Function.update f.work p (some next))
    (holder : g.holder = f.holder) : g.Sound := by
  refine sound.of_put work (fun q _ => by rw [holder]) ?_
  rw [holder, held]
  exact ⟨fun _ => ⟨next, rfl, holds⟩, fun _ => rfl⟩

/-- A pump gives the session back. -/
theorem Sound.put_done (sound : f.Sound) (held : f.holder = some (.pump p))
    (work : g.work = Function.update f.work p none) (holder : g.holder = none) : g.Sound := by
  refine sound.of_put work ?_ ?_
  · intro q other
    rw [holder, held]
    simp [Ne.symm other]
  · rw [holder]
    simp

theorem sound_go (sound : f.Sound) (busy : f.work p = some r) : (f.go p r).2.Sound := by
  have held : r.place.holds = true → f.holder = some (.pump p) :=
    fun holds => (sound p).mpr ⟨r, busy, holds⟩
  have notHeld := not_held_of_place sound busy
  unfold go
  cases place : r.place with
  | called =>
    have notHeld := notHeld (by rw [place]; rfl)
    dsimp only
    split
    · refine sound.put_free notHeld ?_ rfl rfl
      rintro _ ⟨⟩
      dsimp only
      split
      · rfl
      · rfl
    · exact sound.put_free notHeld (by simp) rfl rfl
  | claiming =>
    refine sound.put_free (notHeld (by rw [place]; rfl)) ?_ rfl rfl
    rintro _ ⟨⟩
    rfl
  | waiting =>
    dsimp only
    split
    next free => exact sound.put_taking free rfl rfl rfl
    next => exact sound
  | checking =>
    have held := held (by rw [place]; rfl)
    dsimp only
    split
    · exact sound.put_done held rfl rfl
    · exact sound.put_holding held rfl rfl rfl
  | passed => exact sound.put_holding (held (by rw [place]; rfl)) rfl rfl rfl
  | advanced elapsed => exact sound.put_done (held (by rw [place]; rfl)) rfl rfl

/-- A move never lets a second one have the session. -/
theorem sound_step (f : Floor) (m : Move) (sound : f.Sound) : (f.step m).2.Sound := by
  have move := f.stepped m
  generalize (f.step m).1 = report, (f.step m).2 = g at move
  cases move with
  | blocked => exact sound
  | called idle now display =>
    refine sound.put_free (not_held_of_idle sound idle) ?_ rfl rfl
    rintro _ ⟨⟩
    rfl
  | gone busy => exact sound_go sound busy
  | started => exact sound
  | cancelled => exact sound
  | changed c => exact sound
  | entered free =>
    -- no pump had the session before, and none has it now
    intro p
    have noPump := sound p
    rw [free] at noPump
    simpa [Holds] using noPump
  | left held =>
    intro p
    have noPump := sound p
    rw [held] at noPump
    simpa [Holds] using noPump

/-! ## The control -/

/-- What a move does to the control, by its report. -/
inductive ControlMove (f : Floor) : Report → PumpState → Prop where
  | stays {report : Report} (noStart : report ≠ .started true) : ControlMove f report f.control
  | armed (was : f.control = .idle) : ControlMove f (.started true) .armed
  | running {report : Report} (noStart : report ≠ .started true) (was : f.control = .armed) :
      ControlMove f report .running
  | stopped {report : Report} (noStart : report ≠ .started true) : ControlMove f report .stopped

theorem controlMove_go (f : Floor) (p : Nat) (r : Refreshing) :
    f.ControlMove (f.go p r).1 (f.go p r).2.control := by
  unfold go
  cases r.place with
  | called =>
    dsimp only
    split
    · exact .stays (by simp)
    · exact .stays (by simp)
  | claiming =>
    dsimp only
    rw [PumpState.value_claim]
    split
    next armed => exact .running (by simp) armed
    next => exact .stays (by simp)
  | waiting =>
    dsimp only
    split
    · exact .stays (by simp)
    · exact .stays (by simp)
  | checking =>
    dsimp only
    split
    · exact .stays (by simp)
    · exact .stays (by simp)
  | passed => exact .stays (by simp)
  | advanced elapsed =>
    dsimp only
    rw [PumpState.value_cancel]
    split
    · exact .stopped (by simp)
    · exact .stays (by simp)

/-- Every move does one of these to the control. -/
theorem controlMove (f : Floor) (m : Move) : f.ControlMove (f.step m).1 (f.step m).2.control := by
  have move := f.stepped m
  generalize (f.step m).1 = report, (f.step m).2 = g at move
  cases move with
  | gone busy => exact f.controlMove_go _ _
  | started =>
    rw [PumpState.value_start]
    split
    next idle => exact .armed idle
    next => exact .stays (by simp)
  | cancelled => exact .stopped (by simp)
  | blocked => exact .stays (by simp)
  | called idle now display => exact .stays (by simp)
  | entered free => exact .stays (by simp)
  | changed c => exact .stays (by simp)
  | left held => exact .stays (by simp)

theorem stopped_step (f : Floor) (m : Move) (stopped : f.control = .stopped) :
    (f.step m).2.control = .stopped := by
  have move := f.controlMove m
  generalize (f.step m).1 = report, (f.step m).2.control = next at move
  cases move with
  | stays _ => exact stopped
  | armed was => cases was.symm.trans stopped
  | running _ was => cases was.symm.trans stopped
  | stopped _ => rfl

/-- A cancel stops the control for good. -/
theorem stopped_of_cancelled {moves : List Move} (cancelled : .cancel ∈ moves) (f : Floor) :
    (f.after moves).control = .stopped := by
  obtain ⟨before, rest, rfl⟩ := List.append_of_mem cancelled
  rw [after_append]
  exact after_preserves stopped_step (PumpState.value_cancel _) rest

theorem starts_of_not_idle (started : f.control ≠ .idle) (moves : List Move) :
    (f.reports moves).count (.started true) = 0 := by
  induction moves generalizing f with
  | nil => rfl
  | cons m moves ih =>
    have move := f.controlMove m
    have later : (f.step m).2.control ≠ .idle → _ := ih
    rw [reports, List.count_cons]
    generalize (f.step m).1 = report, (f.step m).2.control = next at move later
    cases move with
    | stays noStart => simp [later started, noStart]
    | armed was => exact absurd was started
    | running noStart _ => simp [later, noStart]
    | stopped noStart => simp [later, noStart]

/-- At most one start takes effect. -/
theorem starts_le_one (f : Floor) (moves : List Move) :
    (f.reports moves).count (.started true) ≤ 1 := by
  induction moves generalizing f with
  | nil => exact Nat.zero_le 1
  | cons m moves ih =>
    have move := f.controlMove m
    have rest := ih (f.step m).2
    have none : (f.step m).2.control ≠ .idle → _ := fun busy => starts_of_not_idle busy moves
    rw [reports, List.count_cons]
    generalize (f.step m).1 = report, (f.step m).2.control = next at move none
    cases move with
    | stays noStart => simpa [noStart] using rest
    | armed _ => -- the control is busy from now on
      simp [none]
    | running noStart _ => simpa [noStart] using rest
    | stopped noStart => simpa [noStart] using rest

end Floor

end VipHost
