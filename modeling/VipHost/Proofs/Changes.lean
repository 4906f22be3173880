import VipHost.Proofs.Loading
import VipHost.Proofs.Work

/-!
# What work does to a session

Whatever is done at a bench, its session only ever sees a few operations: a load,
a reset, an invalidation, an advance, a key event, a register write or a memory
write.  A `Change` is one of them.  `Bench.changes` reads off a request which
changes it makes, and `Bench.session_answer` says that the session after the
request is the session after these changes; `Bench.session_tick` says the same of
a refresh.  So what every change keeps is kept by all work
(`Bench.session_after`), as the seed is (`Bench.seed_after`).
-/

namespace VipHost

/-- One operation on a session. -/
inductive Change where
  | load (program : Bytes)
  | reset
  | invalidate
  | advance (now : Binary64)
  | key (k : Key) (state : KeyState)
  | registers (r : Registers)
  | poke (start : Nat) (data : Bytes)

namespace Session

/-- The session after a write to its memory.  A write outside changes nothing. -/
def poke (s : Session) (start : Nat) (data : Bytes) : Session :=
  match s.machine.memory.write? start data with
  | none => s
  | some memory => { s with machine := { s.machine with memory } }

/-- The session after a change. -/
def change (s : Session) : Change → Session
  | .load program => (s.load program).value.2
  | .reset => s.reset.value
  | .invalidate => s.invalidate.value
  | .advance now => (s.advanceTo now).value.2
  | .key k state => (s.keyEvent k state).value
  | .registers r => (s.writeRegisters r).value
  | .poke start data => s.poke start data

/-- The session after some changes. -/
def changeAll : Session → List Change → Session
  | s, [] => s
  | s, c :: cs => (s.change c).changeAll cs

@[simp] theorem changeAll_nil (s : Session) : s.changeAll [] = s := rfl

@[simp] theorem changeAll_cons (s : Session) (c : Change) (cs : List Change) :
    s.changeAll (c :: cs) = (s.change c).changeAll cs := rfl

theorem changeAll_append (s : Session) (first second : List Change) :
    s.changeAll (first ++ second) = (s.changeAll first).changeAll second := by
  induction first generalizing s with
  | nil => rfl
  | cons c first ih => exact ih (s.change c)

theorem seed_change (s : Session) (c : Change) : (s.change c).machine.seed = s.machine.seed := by
  cases c with
  | load program =>
    by_cases oversized : Memory.programCapacity < program.size
    · rw [change, value_load_of_oversized s oversized]
    · rw [change, value_load_of_fits s (Nat.not_lt.mp oversized)]
      exact s.machine.seed_loaded program
  | reset =>
    rw [change, value_reset]
    exact s.machine.seed_loaded #[]
  | invalidate => rfl
  | advance now => rfl
  | key k state => rfl
  | registers r => rfl
  | poke start data =>
    rw [change, poke]
    cases s.machine.memory.write? start data with
    | none => rfl
    | some memory => rfl

theorem seed_changeAll (s : Session) (cs : List Change) :
    (s.changeAll cs).machine.seed = s.machine.seed := by
  induction cs generalizing s with
  | nil => rfl
  | cons c cs ih => rw [changeAll_cons, ih, seed_change]

/-- Only a write to the memory reaches the bytes below the program. -/
theorem low_change (s : Session) {c : Change} (noPoke : ∀ start data, c ≠ .poke start data) :
    (s.change c).machine.memory.low = s.machine.memory.low := by
  cases c with
  | load program =>
    by_cases oversized : Memory.programCapacity < program.size
    · rw [change, value_load_of_oversized s oversized]
    · rw [change, value_load_of_fits s (Nat.not_lt.mp oversized)]
      exact Memory.low_loaded s.machine.memory (Nat.not_lt.mp oversized)
  | reset =>
    rw [change, value_reset]
    exact Memory.low_loaded s.machine.memory (Nat.zero_le _)
  | invalidate => rfl
  | advance now => rfl
  | key k state => rfl
  | registers r => rfl
  | poke start data => exact absurd rfl (noPoke start data)

theorem low_changeAll (s : Session) {cs : List Change}
    (noPoke : ∀ start data, Change.poke start data ∉ cs) :
    (s.changeAll cs).machine.memory.low = s.machine.memory.low := by
  induction cs generalizing s with
  | nil => rfl
  | cons c cs ih =>
    rw [changeAll_cons, ih]
    · exact low_change s fun start data here => noPoke start data (here ▸ .head _)
    · exact fun start data later => noPoke start data (.tail _ later)

end Session

/-! ## Hosts -/

namespace Host

/-- The changes of a load from a file. -/
def fileChanges (read : FileReader) (path : String) : List Change :=
  match read path with
  | .error _ => []
  | .ok program => [.load program]

/-- The changes of a reload. -/
def reloadChanges (h : Host) (read : FileReader) : List Change :=
  match h.programPath with
  | none => []
  | some path => fileChanges read path

/-- The changes of a key event for a character. -/
def keyChanges (l : Layout) (c : Char) (state : KeyState) : List Change :=
  match l.key? c with
  | none => []
  | some k => [.key k state]

/-- The changes of an event. -/
def eventChanges (h : Host) (read : FileReader) : HostEvent → List Change
  | .key c state => keyChanges h.layout c state
  | .reset => [.reset]
  | .reload => h.reloadChanges read
  | .start => []
  | .dumpRegisters => []
  | .quit => []

theorem mem_keyChanges {l : Layout} {c : Char} {state : KeyState} {change : Change}
    (inside : change ∈ keyChanges l c state) : ∃ k, change = .key k state := by
  unfold keyChanges at inside
  cases key : l.key? c with
  | none =>
    rw [key] at inside
    cases inside
  | some k =>
    rw [key] at inside
    exact ⟨k, List.mem_singleton.mp inside⟩

theorem mem_fileChanges {read : FileReader} {path : String} {change : Change}
    (inside : change ∈ fileChanges read path) : ∃ program, change = .load program := by
  unfold fileChanges at inside
  cases file : read path with
  | error e =>
    rw [file] at inside
    cases inside
  | ok program =>
    rw [file] at inside
    exact ⟨program, List.mem_singleton.mp inside⟩

theorem mem_reloadChanges {h : Host} {read : FileReader} {change : Change}
    (inside : change ∈ h.reloadChanges read) : ∃ program, change = .load program := by
  unfold reloadChanges at inside
  cases remembered : h.programPath with
  | none =>
    rw [remembered] at inside
    cases inside
  | some path =>
    rw [remembered] at inside
    exact mem_fileChanges inside

theorem poke_notMem_keyChanges (l : Layout) (c : Char) (state : KeyState) (start : Nat)
    (data : Bytes) : Change.poke start data ∉ keyChanges l c state := by
  intro inside
  obtain ⟨k, same⟩ := mem_keyChanges inside
  cases same

theorem session_loadFile (h : Host) (read : FileReader) (path : String) :
    (h.loadFile read path).value.2.session = h.session.changeAll (fileChanges read path) := by
  unfold loadFile fileChanges
  cases read path with
  | error e => rfl
  | ok program => rfl

theorem session_openFile (h : Host) (read : FileReader) (path : String) :
    (h.openFile read path).value.2.session = h.session.changeAll (fileChanges read path) := by
  rw [← session_loadFile]
  simp only [openFile, Logged.value_bind]
  cases (h.loadFile read path).value.1 with
  | error e => rfl
  | ok done => rfl

theorem session_reload (h : Host) (read : FileReader) :
    (h.reload read).value.2.session = h.session.changeAll (h.reloadChanges read) := by
  unfold reload reloadChanges
  cases h.programPath with
  | none => rfl
  | some path => exact session_loadFile h read path

theorem session_keyEvent (h : Host) (c : Char) (state : KeyState) :
    (h.keyEvent c state).value.2.session =
      h.session.changeAll (keyChanges h.layout c state) := by
  unfold keyEvent keyChanges
  cases h.layout.key? c with
  | none => rfl
  | some k => rfl

/-- However a reload ends, the host goes on. -/
theorem value_handle_reload (h : Host) (read : FileReader) :
    (h.handle read .reload).value = (true, (h.reload read).value.2) := by
  simp only [handle, Logged.value_bind]
  obtain ⟨result, h'⟩ := (h.reload read).value
  cases result with
  | error e => rfl
  | ok loaded =>
    cases loaded with
    | true => rfl
    | false => rfl

theorem session_handle (h : Host) (read : FileReader) (e : HostEvent) :
    (h.handle read e).value.2.session = h.session.changeAll (h.eventChanges read e) := by
  cases e with
  | key c state => exact session_keyEvent h c state
  | start => rfl
  | reset => rfl
  | reload => rw [value_handle_reload, eventChanges, session_reload]
  | dumpRegisters => rfl
  | quit => rfl

theorem layout_handle_key (h : Host) (read : FileReader) (c : Char) (state : KeyState) :
    (h.handle read (.key c state)).value.2.layout = h.layout := by
  simp only [handle, keyEvent, Logged.value_bind]
  cases h.layout.key? c with
  | none => rfl
  | some k => rfl

end Host

/-! ## Refreshes -/

/-- How a refresh ends that was drawn. -/
def Drawn.ticked (elapsed : UInt64) : Drawn → Ticked
  | .shown => .shown elapsed
  | .failed e => .failed e
  | .crashed => .crashed

/-- A refresh that was drawn is not refused, and reports the time it took. -/
theorem Drawn.ticked_cases (elapsed : UInt64) (d : Drawn) :
    d.ticked elapsed ≠ .refused ∧ ∀ e, d.ticked elapsed = .shown e → e = elapsed := by
  cases d with
  | shown => exact ⟨by simp [ticked], fun e same => (Ticked.shown.inj same).symm⟩
  | failed e => exact ⟨by simp [ticked], by simp [ticked]⟩
  | crashed => exact ⟨by simp [ticked], by simp [ticked]⟩

namespace Stage

theorem value_tick_refused (s : Stage) (now : Binary64) (refused : s.control.admits = false) :
    (s.tick now).value = (.refused, s) := by
  rw [tick, if_neg (by simp [refused])]
  rfl

/-- A refresh that is admitted finds the control running once it holds the
session. -/
theorem value_tick_admitted (s : Stage) (now : Binary64) (admitted : s.control.admits = true) :
    (s.tick now).value = ({ s with control := .running }.present now).value := by
  rw [tick, if_pos admitted, Logged.value_bind]
  obtain ⟨session, control, display⟩ := s
  cases control with
  | idle => cases admitted
  | armed => rfl
  | running => rfl
  | stopped => cases admitted

/-- Whatever the display does, the session is the one advanced to the time stamp. -/
theorem value_present (s : Stage) (now : Binary64) :
    (s.present now).value =
      let advanced := (s.session.advanceTo now).value
      let drawn := s.display.draw advanced.2.machine.frame
      (drawn.1.ticked advanced.1,
        { session := advanced.2
          control := if s.display.nextCancels then .stopped else s.control
          display := drawn.2 }) := by
  simp only [present, Logged.value_bind]
  cases s.display.nextCancels with
  | true =>
    simp only [if_true, Logged.value_bind, PumpState.value_cancel, Logged.value_pure]
    cases (s.display.draw (s.session.advanceTo now).value.2.machine.frame).1 with
    | shown => rfl
    | failed e => rfl
    | crashed => rfl
  | false =>
    simp only [Bool.false_eq_true, if_false, Logged.value_bind, Logged.value_pure]
    cases (s.display.draw (s.session.advanceTo now).value.2.machine.frame).1 with
    | shown => rfl
    | failed e => rfl
    | crashed => rfl

theorem session_present (s : Stage) (now : Binary64) :
    (s.present now).value.2.session = (s.session.advanceTo now).value.2 := by
  rw [value_present]

end Stage

/-! ## Benches -/

namespace Bench

/-- The changes a request makes. -/
def changes (b : Bench) : Request → List Change
  | .load program => [.load program]
  | .loadFrom source =>
    match source.failure with
    | some _ => []
    | none => [.load source.bytes]
  | .openFile path => Host.fileChanges b.files.read path
  | .loadFile path => Host.fileChanges b.files.read path
  | .reload => b.host.reloadChanges b.files.read
  | .reset => [.reset]
  | .key c state => Host.keyChanges b.host.layout c state
  | .event e => b.host.eventChanges b.files.read e
  | .keyboard e now =>
    match (e.meaning b.hold now).value.1 with
    | none => []
    | some asked => b.host.eventChanges b.files.read asked
  | .expire now =>
    match b.hold with
    | none => []
    | some hold =>
      (hold.expire now).1.flatMap fun c => Host.keyChanges b.host.layout c .released
  | .writeRegisters r => [.registers r]
  | .writeSnapshot text =>
    match Registers.ofText text with
    | .error _ => []
    | .ok r => [.registers r]
  | .poke start data => [.poke start data]
  | .invalidate => [.invalidate]
  | .advanceTo now => [.advance now]
  | _ => []

theorem session_releaseAll (b : Bench) (cs : List Char) :
    (b.releaseAll cs).value.host.session =
      b.host.session.changeAll
        (cs.flatMap fun c => Host.keyChanges b.host.layout c .released) := by
  induction cs generalizing b with
  | nil => rfl
  | cons c cs ih =>
    simp only [releaseAll, Logged.value_bind, List.flatMap_cons, Session.changeAll_append]
    rw [ih]
    dsimp only
    rw [Host.layout_handle_key, Host.session_handle]
    rfl

/-- The session after a request is the session after its changes. -/
theorem session_answer (b : Bench) (r : Request) :
    (b.answer r).value.2.host.session = b.host.session.changeAll (b.changes r) := by
  cases r with
  | load program => rfl
  | loadFrom source =>
    simp only [answer, changes, Logged.value_bind, Host.loadFrom]
    cases source.failure with
    | none => rfl
    | some e => rfl
  | openFile path => exact Host.session_openFile b.host b.files.read path
  | loadFile path => exact Host.session_loadFile b.host b.files.read path
  | reload =>
    rw [changes, ← Host.session_reload]
    simp only [answer, Logged.value_bind]
    obtain ⟨result, h⟩ := (b.host.reload b.files.read).value
    cases result with
    | error e => rfl
    | ok loaded => rfl
  | key c state => exact Host.session_keyEvent b.host c state
  | event e => exact Host.session_handle b.host b.files.read e
  | keyboard e now =>
    simp only [answer, changes, Logged.value_bind]
    obtain ⟨asked, hold⟩ := (e.meaning b.hold now).value
    cases asked with
    | none => rfl
    | some asked => exact Host.session_handle b.host b.files.read asked
  | expire now =>
    simp only [answer, changes]
    cases b.hold with
    | none => rfl
    | some hold => exact session_releaseAll { b with hold := some (hold.expire now).2 } _
  | holdPress c now =>
    simp only [answer, changes]
    cases b.hold with
    | none => rfl
    | some hold => rfl
  | writeSnapshot text =>
    simp only [answer, changes, Logged.value_bind, Host.writeSnapshot]
    cases Registers.ofText text with
    | error e => rfl
    | ok r => rfl
  | poke start data =>
    simp only [answer, changes, Session.changeAll_cons, Session.changeAll_nil, Session.change,
      Session.poke]
    cases b.host.session.machine.memory.write? start data with
    | none => rfl
    | some memory => rfl
  | reset => rfl
  | writeFile path contents => rfl
  | removeFile path => rfl
  | start => rfl
  | cancel => rfl
  | isCancelled => rfl
  | layout => rfl
  | isHeld c => rfl
  | holdClear => rfl
  | readRegisters => rfl
  | writeRegisters r => rfl
  | dumpRegisters => rfl
  | peek start len => rfl
  | invalidate => rfl
  | advanceTo now => rfl
  | frame => rfl
  | frameSize => rfl
  | seed => rfl

/-- The changes of a refresh: an advance, unless it is refused. -/
def refreshChanges (b : Bench) (now : Binary64) : List Change :=
  if b.host.control.admits then [.advance now] else []

/-- The session after a refresh is the session after its changes. -/
theorem session_tick (b : Bench) (pump : Nat) (now : Binary64) :
    (b.tick pump now).value.2.host.session = b.host.session.changeAll (b.refreshChanges now) := by
  simp only [tick, Logged.value_bind, Logged.value_pure, afterTick, refreshChanges]
  by_cases admitted : b.host.control.admits = true
  · rw [if_pos admitted, Stage.value_tick_admitted b.stage now admitted]
    exact Stage.session_present _ now
  · rw [if_neg admitted,
      Stage.value_tick_refused b.stage now (Bool.not_eq_true _ ▸ admitted)]
    rfl

/-- The session after any work is the session after some changes. -/
theorem session_after (b : Bench) (steps : List Step) :
    ∃ cs, (b.after steps).host.session = b.host.session.changeAll cs := by
  let Changed : Bench → Prop := fun b' => ∃ cs, b'.host.session = b.host.session.changeAll cs
  have request : ∀ b' r, Changed b' → Changed (b'.answer r).value.2 := by
    intro b' r ⟨cs, same⟩
    exact ⟨cs ++ b'.changes r, by rw [session_answer, same, Session.changeAll_append]⟩
  have refresh : ∀ pump b' now, Changed b' → Changed (b'.tick pump now).value.2 := by
    intro pump b' now ⟨cs, same⟩
    exact ⟨cs ++ b'.refreshChanges now, by rw [session_tick, same, Session.changeAll_append]⟩
  have step : ∀ b', ∀ s ∈ steps, Changed b' → Changed (b'.perform s).2 := by
    intro b' s _ changed
    cases s with
    | request r => exact request b' r changed
    | refresh pump now => exact refresh pump b' now changed
    | run pump script =>
      exact run_preserves pump request (refresh pump) (fun _ changed => changed) script changed
    | addPump => exact changed
    | setDisplay d => exact changed
  exact after_preserves step ⟨[], rfl⟩

theorem seed_after (b : Bench) (steps : List Step) :
    (b.after steps).host.session.machine.seed = b.host.session.machine.seed := by
  obtain ⟨cs, same⟩ := b.session_after steps
  rw [same, Session.seed_changeAll]

end Bench

end VipHost
