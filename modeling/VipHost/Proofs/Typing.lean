import Mathlib.Tactic.Tauto
import VipHost.Proofs.Changes

/-!
# Typing with a hold

A keyboard event is a release, a request to quit, a press of a key with a command,
a character, or nothing at all, in this order (`KeyEvent.ComesTo`).

Where the terminal reports no releases, two things remember which keys are down:
the hold has the characters, the keypad of the machine has the keys they stand
for.  `Bench.KeyWork` says what one step of typing does to both, and
`Bench.keyWork` that every such step does one of these.  A step types a
character, lets characters run out, releases all keys with the hold kept or
cleared, or touches neither.

One step stands apart.  F5 clears the hold before the program file is read, so
when nothing is loaded the hold is empty and the keys are what they were
(`KeyWork.emptied`).
-/

namespace VipHost

/-! ## What a keyboard event asks for -/

/-- Whether an event has nothing to do with the keypad. -/
def HostEvent.sparesKeypad : HostEvent → Bool
  | .start => true
  | .dumpRegisters => true
  | .quit => true
  | _ => false

namespace KeyCode

theorem command?_char (c : Char) :
    (KeyCode.char c).command? = if c = ' ' then some .start else none := by
  by_cases space : c = ' '
  · subst space
    rfl
  · rw [if_neg space]
    unfold command?
    split
    next isNamed => cases isNamed
    next isSpace => exact absurd (KeyCode.char.inj isSpace) space
    next isNamed => cases isNamed
    next isFunction => cases isFunction
    next isFunction => cases isFunction
    next => rfl

end KeyCode

namespace KeyEvent

/-- Whether a keyboard event asks for a reload. -/
def asksReload (e : KeyEvent) : Prop := e.code = .function 5 ∧ e.action = .press

/-- The character that a keyboard event types: a press or repeat of it, except that c with
control quits and a press of the space bar is a command. -/
def typed? (e : KeyEvent) : Option Char :=
  match e.code with
  | .char c =>
    if e.action = .release ∨ (c = 'c' ∧ e.modifiers.control) ∨ (c = ' ' ∧ e.action = .press)
    then none else some c
  | _ => none

theorem quits_iff {e : KeyEvent} :
    e.quits = true ↔ e.code = .named .esc ∨ (e.code = .char 'c' ∧ e.modifiers.control = true) := by
  unfold quits
  split <;> simp_all

/-- What is typed is a character, neither released nor taken for anything else. -/
theorem typed?_eq_some_iff {e : KeyEvent} {c : Char} :
    e.typed? = some c ↔ e.code = .char c ∧ e.action ≠ .release ∧ ¬ e.quits = true ∧
      (e.action = .press → e.code.command? = none) := by
  obtain ⟨code, action, modifiers⟩ := e
  cases code with
  | function n => simp [typed?]
  | named k => simp [typed?]
  | char d =>
    simp only [typed?, quits_iff, KeyCode.command?_char, KeyCode.char.injEq]
    by_cases same : d = c
    · subst same
      simp
      tauto
    · simp [same]

/-- What a keyboard event comes to, by the kind of event it is: the event asked for, and the hold
after it. -/
inductive ComesTo (e : KeyEvent) (hold : Option Hold) (now : Nat) :
    Option HostEvent × Option Hold → Prop where
  | release (released : e.action = .release) : ComesTo e hold now (e.releaseMeaning hold, hold)
  | quit (typing : e.action ≠ .release) (quits : e.quits = true) :
      ComesTo e hold now (some .quit, hold)
  | command {command : HostEvent} (pressed : e.action = .press) (goesOn : ¬ e.quits = true)
      (has : e.code.command? = some command) :
      ComesTo e hold now
        (some command, if command.clearsKeypad then hold.map Hold.clear else hold)
  | character {c : Char} (types : e.typed? = some c) :
      ComesTo e hold now (charMeaning c (e.action = .repeated) hold now)
  | nothing (noCharacter : ∀ c, e.code ≠ .char c) (typing : e.action ≠ .release)
      (goesOn : ¬ e.quits = true) (noCommand : e.action = .press → e.code.command? = none) :
      ComesTo e hold now (none, hold)

theorem comesTo (e : KeyEvent) (hold : Option Hold) (now : Nat) :
    e.ComesTo hold now (e.meaning hold now).value := by
  unfold meaning
  split
  next released => exact .release released
  next typing =>
    split
    next quits => exact .quit typing quits
    next goesOn =>
      dsimp only
      split
      next command has =>
        obtain ⟨notRepeated, has⟩ := Option.ite_none_left_eq_some.mp has
        have pressed : e.action = .press := by
          cases action : e.action with
          | press => rfl
          | repeated => simp [action] at notRepeated
          | release => exact absurd action typing
        exact .command pressed goesOn has
      next noCommand =>
        have unasked : e.action = .press → e.code.command? = none := by
          intro pressed
          simpa [pressed] using noCommand
        split
        next c isChar =>
          exact .character (typed?_eq_some_iff.mpr ⟨isChar, typing, goesOn, unasked⟩)
        next noCharacter => exact .nothing noCharacter typing goesOn unasked

theorem ComesTo.eq_of_typed {e : KeyEvent} {hold : Option Hold} {now : Nat}
    {m : Option HostEvent × Option Hold} (came : e.ComesTo hold now m) {c : Char}
    (types : e.typed? = some c) : m = charMeaning c (e.action = .repeated) hold now := by
  obtain ⟨isChar, typing, goesOn, noCommand⟩ := typed?_eq_some_iff.mp types
  cases came with
  | release released => exact absurd released typing
  | quit _ quits => exact absurd quits goesOn
  | command pressed _ has => cases (noCommand pressed).symm.trans has
  | character types' =>
    cases types.symm.trans types'
    rfl
  | nothing noCharacter => exact absurd isChar (noCharacter c)

/-- With a hold a character is passed on if it was not held. -/
theorem charMeaning_some (c : Char) (repeated : Bool) (h : Hold) (now : Nat) :
    charMeaning c repeated (some h) now =
      (if h.isHeld c then none else some (.key c .pressed), some (h.press c now).2) := by
  cases held : h.isHeld c with
  | true => simp [charMeaning, Hold.press, held]
  | false => simp [charMeaning, Hold.press, held]

/-- With a hold a release means nothing. -/
theorem releaseMeaning_some (e : KeyEvent) (h : Hold) : e.releaseMeaning (some h) = none := by
  unfold releaseMeaning
  split
  next noHold => cases noHold
  next => rfl

/-- What a keyboard event comes to with a hold: the event asked for, and the hold
after it. -/
inductive Meant (e : KeyEvent) (h : Hold) (now : Nat) : Option HostEvent × Option Hold → Prop where
  | ignored : Meant e h now (none, some h)
  | command {asked : HostEvent} (spares : asked.sparesKeypad = true) :
      Meant e h now (some asked, some h)
  | reset : Meant e h now (some .reset, some h.clear)
  | reload (asks : e.asksReload) : Meant e h now (some .reload, some h.clear)
  | typed (c : Char) : Meant e h now
      (if (h.press c now).1 then some (.key c .pressed) else none, some (h.press c now).2)

/-- A press of a key with a command. -/
theorem meant_command {e : KeyEvent} (pressed : e.action = .press) {command : HostEvent}
    (has : e.code.command? = some command) (h : Hold) (now : Nat) :
    Meant e h now (some command, if command.clearsKeypad then some h.clear else some h) := by
  unfold KeyCode.command? at has
  split at has
  · cases has
    exact .command rfl
  · cases has
    exact .command rfl
  · cases has
    exact .reset
  next f5 =>
    cases has
    exact .reload ⟨f5, pressed⟩
  · cases has
    exact .command rfl
  · cases has

theorem meant (e : KeyEvent) (h : Hold) (now : Nat) :
    Meant e h now (e.meaning (some h) now).value := by
  have came := e.comesTo (some h) now
  generalize (e.meaning (some h) now).value = m at came
  cases came with
  | release =>
    rw [releaseMeaning_some]
    exact .ignored
  | quit => exact .command rfl
  | command pressed _ has => exact meant_command pressed has h now
  | character => exact .typed _
  | nothing => exact .ignored

theorem value_meaning_reload {e : KeyEvent} (asks : e.asksReload) (h : Hold) (now : Nat) :
    (e.meaning (some h) now).value = (some .reload, some h.clear) := by
  obtain ⟨code, action, modifiers⟩ := e
  obtain ⟨rfl, rfl⟩ : code = .function 5 ∧ action = .press := asks
  rfl

end KeyEvent

/-! ## Keys of a host -/

namespace Host

/-- The state of a key. -/
def keyState (h : Host) (k : Key) : KeyState := h.session.machine.keypad.get k

theorem layout_loaded (h : Host) (program : Bytes) : (h.loaded program).layout = h.layout := by
  unfold loaded
  rfl

theorem keyState_loaded (h : Host) (program : Bytes) (k : Key) :
    (h.loaded program).keyState k = .released := by
  rw [keyState, loaded, Machine.keypad_loaded, Keypad.get_allReleased]

theorem layout_remembering (h : Host) (path : String) :
    (h.remembering path).layout = h.layout := rfl

theorem keyState_remembering (h : Host) (path : String) (k : Key) :
    (h.remembering path).keyState k = h.keyState k := rfl

theorem keyState_handle_key (h : Host) (read : FileReader) (c : Char) (state : KeyState)
    (k : Key) :
    (h.handle read (.key c state)).value.2.keyState k =
      if h.layout.key? c = some k then state else h.keyState k := by
  simp only [handle, keyEvent, Logged.value_bind]
  cases h.layout.key? c with
  | none => rfl
  | some k' =>
    simp only [Option.some.injEq]
    exact Keypad.get_set h.session.machine.keypad k' k state

/-- A reload releases every key, or loads and changes nothing. -/
theorem reload_cases (h : Host) (read : FileReader) :
    ((h.reload read).value.1 = .ok true ∧ (h.reload read).value.2.layout = h.layout ∧
        ∀ k, (h.reload read).value.2.keyState k = .released) ∨
      ((h.reload read).value.1 ≠ .ok true ∧ (h.reload read).value.2 = h) := by
  cases remembered : h.programPath with
  | none =>
    rw [value_reload_none h read remembered]
    exact .inr ⟨by simp, rfl⟩
  | some path =>
    rw [value_reload_some h read remembered]
    cases read.program path with
    | error e => exact .inr ⟨by simp, rfl⟩
    | ok program => exact .inl ⟨rfl, h.layout_loaded program, h.keyState_loaded program⟩

/-- Opening a file releases every key, or changes nothing. -/
theorem openFile_cases (h : Host) (read : FileReader) (path : String) :
    ((h.openFile read path).value.2.layout = h.layout ∧
        ∀ k, (h.openFile read path).value.2.keyState k = .released) ∨
      (h.openFile read path).value.2 = h := by
  rw [value_openFile]
  cases read.program path with
  | error e => exact .inr rfl
  | ok program =>
    exact .inl ⟨(layout_remembering _ path).trans (h.layout_loaded program),
      fun k => (keyState_remembering _ path k).trans (h.keyState_loaded program k)⟩

end Host

/-! ## Typing at a bench -/

/-- Whether a step is part of typing: a keyboard event, an expiry, or something
around refreshes. -/
def Step.isTyping : Step → Bool
  | .request (.keyboard _ _) => true
  | .request (.expire _) => true
  | .refresh _ _ => true
  | .addPump => true
  | .setDisplay _ => true
  | _ => false

/-- Whether a step is part of typing or of working with program files. -/
def Step.isTypingOrFiling : Step → Bool
  | .request (.openFile _) => true
  | .request (.writeFile _ _) => true
  | .request (.removeFile _) => true
  | s => s.isTyping

theorem Step.isTypingOrFiling_of_isTyping {s : Step} (typing : s.isTyping = true) :
    s.isTypingOrFiling = true := by
  unfold isTypingOrFiling
  split
  · rfl
  · rfl
  · rfl
  · exact typing

namespace Bench

/-- The state of a key. -/
def keyState (b : Bench) (k : Key) : KeyState := b.host.keyState k

/-- The key that a character stands for. -/
def key? (b : Bench) (c : Char) : Option Key := b.host.layout.key? c

/-- Whether a step is a press of F5 that loads nothing. -/
def ReloadsNothing (b : Bench) (s : Step) : Prop :=
  ∃ e now, s = .request (.keyboard e now) ∧ e.asksReload ∧
    (b.host.reload b.files.read).value.1 ≠ .ok true

/-- What a step of typing does to a bench with a hold. -/
inductive KeyWork (b : Bench) (h : Hold) (s : Step) (b' : Bench) : Prop where
  | idle (hold : b'.hold = some h) (keys : ∀ k, b'.keyState k = b.keyState k)
  | typed (c : Char) (now : Nat) (hold : b'.hold = some (h.press c now).2)
      (keys : ∀ k, b'.keyState k =
        if h.isHeld c = false ∧ b.key? c = some k then .pressed else b.keyState k)
  | ranOut (now : Nat) (expires : s = .request (.expire now))
      (hold : b'.hold = some (h.expire now).2)
      (keys : ∀ k, b'.keyState k =
        if some k ∈ (h.expire now).1.map b.key? then .released else b.keyState k)
  | loaded (path : String) (opens : s = .request (.openFile path)) (hold : b'.hold = some h)
      (keys : ∀ k, b'.keyState k = .released)
  | restarted (hold : b'.hold = some h.clear) (keys : ∀ k, b'.keyState k = .released)
  | emptied (reloads : b.ReloadsNothing s) (hold : b'.hold = some h.clear)
      (keys : ∀ k, b'.keyState k = b.keyState k)

theorem releaseAll_keys (b : Bench) (cs : List Char) :
    (b.releaseAll cs).value.hold = b.hold ∧
      (b.releaseAll cs).value.host.layout = b.host.layout ∧
      ∀ k, (b.releaseAll cs).value.keyState k =
        if some k ∈ cs.map b.key? then .released else b.keyState k := by
  induction cs generalizing b with
  | nil => exact ⟨rfl, rfl, fun k => by simp [releaseAll]⟩
  | cons c cs ih =>
    simp only [releaseAll, Logged.value_bind]
    let b' := { b with host := (b.host.handle b.files.read (.key c .released)).value.2 }
    obtain ⟨hold, layout, keys⟩ := ih b'
    have sameLayout := Host.layout_handle_key b.host b.files.read c .released
    have sameKeys : b'.key? = b.key? := congrArg Layout.key? sameLayout
    have state (k : Key) : b'.keyState k =
        if b.key? c = some k then .released else b.keyState k :=
      b.host.keyState_handle_key b.files.read c .released k
    refine ⟨hold, layout.trans sameLayout, fun k => ?_⟩
    rw [keys k, sameKeys, state]
    simp only [List.map_cons, List.mem_cons, eq_comm (a := some k)]
    by_cases later : some k ∈ cs.map b.key?
    · rw [if_pos later, if_pos (.inr later)]
    · simp only [later, if_false, or_false]

theorem bench_keyboard (b : Bench) (e : KeyEvent) (now : Nat) :
    (b.answer (.keyboard e now)).value.2 =
      { b with
        host := (e.meaning b.hold now).value.1.elim b.host fun asked =>
          (b.host.handle b.files.read asked).value.2
        hold := (e.meaning b.hold now).value.2 } := by
  simp only [answer, Logged.value_bind]
  cases (e.meaning b.hold now).value.1 with
  | none => rfl
  | some asked => rfl

/-- A reload that loads nothing empties the hold all the same. -/
theorem bench_of_reloadsNothing {b : Bench} {h : Hold} (held : b.hold = some h) {s : Step}
    (reloads : b.ReloadsNothing s) : (b.perform s).2 = { b with hold := some h.clear } := by
  obtain ⟨e, now, rfl, asks, nothing⟩ := reloads
  obtain ⟨loads, _⟩ | ⟨_, same⟩ := b.host.reload_cases b.files.read
  · exact absurd loads nothing
  · simp only [perform, Prod.map_snd, id, bench_keyboard, held,
      KeyEvent.value_meaning_reload asks, Option.elim, Host.value_handle_reload, same]

theorem keyWork_keyboard {b : Bench} {h : Hold} (held : b.hold = some h) (e : KeyEvent)
    (now : Nat) :
    (b.answer (.keyboard e now)).value.2.host.layout = b.host.layout ∧
      b.KeyWork h (.request (.keyboard e now)) (b.answer (.keyboard e now)).value.2 := by
  rw [bench_keyboard, held]
  have meant := e.meant h now
  generalize (e.meaning (some h) now).value = m at meant
  cases meant with
  | ignored => exact ⟨rfl, .idle rfl fun _ => rfl⟩
  | @command asked spares =>
    have spared : (b.host.handle b.files.read asked).value.2.layout = b.host.layout ∧
        ∀ k, (b.host.handle b.files.read asked).value.2.keyState k = b.host.keyState k := by
      cases asked with
      | start => exact ⟨rfl, fun _ => rfl⟩
      | dumpRegisters => exact ⟨rfl, fun _ => rfl⟩
      | quit => exact ⟨rfl, fun _ => rfl⟩
      | key c state => cases spares
      | reset => cases spares
      | reload => cases spares
    exact ⟨spared.1, .idle rfl spared.2⟩
  | reset =>
    have fresh : (b.host.handle b.files.read .reset).value.2 = b.host.loaded #[] :=
      b.host.value_reset
    simp only [Option.elim, fresh]
    exact ⟨b.host.layout_loaded #[], .restarted rfl fun k => b.host.keyState_loaded #[] k⟩
  | reload asks =>
    simp only [Option.elim, Host.value_handle_reload]
    obtain ⟨_, layout, released⟩ | ⟨nothing, same⟩ := b.host.reload_cases b.files.read
    · exact ⟨layout, .restarted rfl released⟩
    · rw [same]
      exact ⟨rfl, .emptied ⟨e, now, rfl, asks, nothing⟩ rfl fun _ => rfl⟩
  | typed c =>
    -- only the first press of a character is passed on
    cases before : h.isHeld c with
    | true =>
      have stale : (h.press c now).1 = false := by simp [Hold.press, before]
      simp only [stale, Option.elim]
      exact ⟨rfl, .typed c now rfl fun k => by simp [before, keyState]⟩
    | false =>
      have fresh : (h.press c now).1 = true := by simp [Hold.press, before]
      simp only [fresh, Option.elim, if_true]
      refine ⟨Host.layout_handle_key b.host _ c .pressed, .typed c now rfl fun k => ?_⟩
      simp only [keyState, Host.keyState_handle_key, before, key?, true_and]

theorem expire_keys {b : Bench} {h : Hold} (held : b.hold = some h) (now : Nat) :
    (b.answer (.expire now)).value.2.hold = some (h.expire now).2 ∧
      (b.answer (.expire now)).value.2.host.layout = b.host.layout ∧
      ∀ k, (b.answer (.expire now)).value.2.keyState k =
        if some k ∈ (h.expire now).1.map b.key? then .released else b.keyState k := by
  have released : (b.answer (.expire now)).value.2 =
      (releaseAll { b with hold := some (h.expire now).2 } (h.expire now).1).value := by
    simp only [answer, held]
    rfl
  rw [released]
  exact releaseAll_keys { b with hold := some (h.expire now).2 } (h.expire now).1

theorem keyWork_openFile {b : Bench} {h : Hold} (held : b.hold = some h) (path : String) :
    (b.answer (.openFile path)).value.2.host.layout = b.host.layout ∧
      b.KeyWork h (.request (.openFile path)) (b.answer (.openFile path)).value.2 := by
  have opened : (b.answer (.openFile path)).value.2 =
      { b with host := (b.host.openFile b.files.read path).value.2 } := rfl
  rw [opened]
  obtain ⟨layout, released⟩ | same := b.host.openFile_cases b.files.read path
  · exact ⟨layout, .loaded path rfl held released⟩
  · rw [same]
    exact ⟨rfl, .idle held fun _ => rfl⟩

theorem keyWork_tick {b : Bench} {h : Hold} (held : b.hold = some h) (pump : Nat)
    (now : Binary64) :
    (b.tick pump now).value.2.host.layout = b.host.layout ∧
      b.KeyWork h (.refresh pump now) (b.tick pump now).value.2 := by
  refine ⟨rfl, .idle held fun k => ?_⟩
  simp only [keyState, Host.keyState, session_tick, refreshChanges]
  split
  · rfl
  · rfl

/-- Every step of typing does one of these, and keeps the layout. -/
theorem keyWork {b : Bench} {h : Hold} (held : b.hold = some h) {s : Step}
    (typing : s.isTypingOrFiling = true) :
    (b.perform s).2.host.layout = b.host.layout ∧ b.KeyWork h s (b.perform s).2 := by
  cases s with
  | request r =>
    cases r with
    | keyboard e now => exact keyWork_keyboard held e now
    | expire now =>
      obtain ⟨hold, layout, keys⟩ := expire_keys held now
      exact ⟨layout, .ranOut now rfl hold keys⟩
    | openFile path => exact keyWork_openFile held path
    | writeFile path contents => exact ⟨rfl, .idle held fun _ => rfl⟩
    | removeFile path => exact ⟨rfl, .idle held fun _ => rfl⟩
    | _ => cases typing
  | refresh pump now => exact keyWork_tick held pump now
  | run pump script => cases typing
  | addPump => exact ⟨rfl, .idle held fun _ => rfl⟩
  | setDisplay d => exact ⟨rfl, .idle held fun _ => rfl⟩

end Bench

end VipHost
