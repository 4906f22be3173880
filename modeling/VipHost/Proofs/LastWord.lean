import VipHost.Proofs.Presenting
import VipHost.Proofs.Reloading
import VipHost.Proofs.Typing

/-!
# The keypad is the last word of the input

A step has a word on a key if it clears the keypad (`Bench.Clears`), or if it tells of a
character that stands for the key (`Bench.Types`).  Each step then does to the key what it
says, and a step without a word on it leaves it alone.  So after any work a key is as the last
word on it has it (`Bench.keyState_after_types`, `Bench.keyState_after_clears`).

In the other direction nothing depends on the keypad: benches that differ in it at most go on
to differ in it at most, and every step comes to the same on both
(`Bench.EqualButKeypad.perform`).  So key events can be deleted from any work.
-/

namespace VipHost

/-! ## Layouts -/

namespace Layout

theorem face_of_key? {l : Layout} {c : Char} {k : Key} (mapped : l.key? c = some k) :
    l.face k = c.toLower := by
  simpa using List.find?_some mapped

theorem key?_of_toLower {l : Layout} {c c' : Char} (same : c.toLower = c'.toLower) :
    l.key? c = l.key? c' := by
  unfold key?
  rw [same]

/-- Two characters stand for the same key if they are the same in lower case. -/
theorem same_key_iff {l : Layout} {c c' : Char} {k k' : Key} (mapped : l.key? c = some k)
    (mapped' : l.key? c' = some k') : k = k' ↔ c.toLower = c'.toLower := by
  constructor
  · rintro rfl
    exact (face_of_key? mapped).symm.trans (face_of_key? mapped')
  · intro same
    exact Option.some.inj (mapped.symm.trans ((key?_of_toLower same).trans mapped'))

end Layout

namespace Bench

/-! ## Words on a key -/

/-- A step clears the keypad: a load or a reload that succeeds, or a reset. -/
def Clears (b : Bench) (s : Step) : Prop := ∃ r, s = .request r ∧ r ≠ .invalidate ∧ b.Cuts r

/-- A step tells of a character. -/
inductive Types (b : Bench) : Step → Char → KeyState → Prop where
  | key (c : Char) (state : KeyState) : Types b (.request (.key c state)) c state
  | event (c : Char) (state : KeyState) : Types b (.request (.event (.key c state))) c state
  | keyboard {e : KeyEvent} {now : Nat} {c : Char} {state : KeyState}
      (means : (e.meaning b.hold now).value.1 = some (.key c state)) :
      Types b (.request (.keyboard e now)) c state
  | expire {now : Nat} {cs : List Char} {c : Char}
      (out : (b.answer (.expire now)).value.1 = .released cs) (inside : c ∈ cs) :
      Types b (.request (.expire now)) c .released

/-- A step has a word on a key. -/
def Concerns (k : Key) (b : Bench) (s : Step) : Prop :=
  b.Clears s ∨ ∃ c state, b.Types s c state ∧ b.key? c = some k

theorem keyState_perform (b : Bench) (r : Request) (k : Key) :
    (b.perform (.request r)).2.keyState k = (b.answer r).value.2.host.keyState k := rfl

/-! ## Clearing -/

theorem flag_reload_iff (b : Bench) :
    (b.answer .reload).value.1 = .flag true ↔ (b.host.reload b.files.read).value.1 = .ok true := by
  simp only [answer, Logged.value_bind]
  cases (b.host.reload b.files.read).value.1 with
  | error e => simp
  | ok loaded => simp

/-- A reload does to the host what the event does. -/
theorem host_reload (b : Bench) :
    (b.answer .reload).value.2.host = (b.host.handle b.files.read .reload).value.2 :=
  congrArg (fun answered => answered.2.host) b.value_event_reload.symm

theorem keyState_handle_of_cuts {b : Bench} {e : HostEvent} (cuts : b.EventCuts e) (k : Key) :
    (b.host.handle b.files.read e).value.2.keyState k = .released := by
  obtain rfl | ⟨rfl, done⟩ := cuts
  · have fresh : (b.host.handle b.files.read .reset).value.2 = b.host.loaded #[] :=
      b.host.value_reset
    rw [fresh, Host.keyState_loaded]
  · rw [Host.value_handle_reload]
    obtain ⟨_, _, released⟩ | ⟨failed, _⟩ := b.host.reload_cases b.files.read
    · exact released k
    · exact absurd (b.flag_reload_iff.mp done) failed

/-- A step that clears the keypad releases every key. -/
theorem keyState_of_clears {b : Bench} {s : Step} (clears : b.Clears s) (k : Key) :
    (b.perform s).2.keyState k = .released := by
  obtain ⟨r, rfl, other, cuts⟩ := clears
  cases cuts with
  | load loads done =>
    obtain ⟨_, program, _, fresh⟩ | ⟨⟨e, failed⟩, _⟩ := b.load_cases loads
    · rw [keyState, Host.keyState, fresh, Machine.keypad_loaded, Keypad.get_allReleased]
    · cases failed.symm.trans done
  | reload done =>
    rw [keyState_perform, host_reload]
    exact keyState_handle_of_cuts (.inr ⟨rfl, done⟩) k
  | reset => exact keyState_handle_of_cuts (.inl rfl) k
  | invalidate => exact absurd rfl other
  | event cuts => exact keyState_handle_of_cuts cuts k
  | keyboard means cuts =>
    rw [keyState_perform, bench_keyboard, means]
    exact keyState_handle_of_cuts cuts k

/-! ## Typing -/

theorem keyState_handle_key (b : Bench) (c : Char) (state : KeyState) (k : Key) :
    (b.host.handle b.files.read (.key c state)).value.2.keyState k =
      if b.key? c = some k then state else b.keyState k :=
  b.host.keyState_handle_key b.files.read c state k

/-- A step that tells of a character sets the key it stands for. -/
theorem keyState_of_types {b : Bench} {s : Step} {c : Char} {state : KeyState}
    (types : b.Types s c state) {k : Key} (key : b.key? c = some k) :
    (b.perform s).2.keyState k = state := by
  cases types with
  | key => exact (b.keyState_handle_key c state k).trans (if_pos key)
  | event => exact (b.keyState_handle_key c state k).trans (if_pos key)
  | keyboard means =>
    rw [keyState_perform, bench_keyboard, means]
    exact (b.keyState_handle_key c state k).trans (if_pos key)
  | @expire now cs _ out inside =>
    cases held : b.hold with
    | none =>
      simp only [answer, held] at out
      cases out
    | some h =>
      obtain ⟨_, _, keys⟩ := expire_keys held now
      simp only [answer, held, Logged.value_bind] at out
      cases out
      exact (keys k).trans (if_pos (List.mem_map.mpr ⟨c, inside, key⟩))

/-! ## Silence -/

theorem keyState_handle_of_silent {b : Bench} {e : HostEvent} (spares : ¬ b.EventCuts e) {k : Key}
    (other : ∀ c state, e = .key c state → b.key? c ≠ some k) :
    (b.host.handle b.files.read e).value.2.keyState k = b.keyState k := by
  cases e with
  | key c state => rw [keyState_handle_key, if_neg (other c state rfl)]
  | reset => exact absurd (.inl rfl) spares
  | reload =>
    rw [Host.value_handle_reload]
    obtain ⟨done, _⟩ | ⟨_, same⟩ := b.host.reload_cases b.files.read
    · exact absurd (.inr ⟨rfl, b.flag_reload_iff.mpr done⟩) spares
    · rw [same]; rfl
  | start => rfl
  | dumpRegisters => rfl
  | quit => rfl

theorem keyState_load_of_silent {b : Bench} {r : Request} (loads : r.Loads)
    (spares : ¬ b.Clears (.request r)) (k : Key) :
    (b.answer r).value.2.host.keyState k = b.keyState k := by
  obtain ⟨done, _⟩ | ⟨⟨e, failed⟩, _⟩ := b.load_cases loads
  · refine absurd ⟨r, rfl, ?_, .load loads done⟩ spares
    rintro rfl
    cases loads
  · rw [answer_of_isFailed (by rw [failed]; rfl)]
    rfl

/-- A request without a word on a key leaves it alone. -/
theorem keyState_answer_of_silent {b : Bench} {r : Request} {k : Key}
    (silent : ¬ b.Concerns k (.request r)) :
    (b.answer r).value.2.host.keyState k = b.keyState k := by
  have spares : ¬ b.Clears (.request r) := fun clears => silent (.inl clears)
  have unsaid {c : Char} {state : KeyState} (types : b.Types (.request r) c state) :
      b.key? c ≠ some k := fun key => silent (.inr ⟨c, state, types, key⟩)
  cases r with
  | load program => exact keyState_load_of_silent (.load program) spares k
  | loadFrom source => exact keyState_load_of_silent (.loadFrom source) spares k
  | openFile path => exact keyState_load_of_silent (.openFile path) spares k
  | loadFile path => exact keyState_load_of_silent (.loadFile path) spares k
  | reload =>
    rw [host_reload]
    refine keyState_handle_of_silent (fun cuts => spares ⟨_, rfl, by simp, ?_⟩) (by simp)
    obtain same | ⟨_, done⟩ := cuts
    · cases same
    · exact .reload done
  | reset => exact absurd ⟨_, rfl, by simp, .reset⟩ spares
  | key c state => exact (b.keyState_handle_key c state k).trans (if_neg (unsaid (.key c state)))
  | event e =>
    refine keyState_handle_of_silent (fun cuts => spares ⟨_, rfl, by simp, .event cuts⟩) ?_
    rintro c state rfl
    exact unsaid (.event c state)
  | keyboard e now =>
    rw [bench_keyboard]
    cases means : (e.meaning b.hold now).value.1 with
    | none => rfl
    | some asked =>
      refine keyState_handle_of_silent
        (fun cuts => spares ⟨_, rfl, by simp, .keyboard means cuts⟩) ?_
      rintro c state rfl
      exact unsaid (.keyboard means)
  | expire now =>
    cases held : b.hold with
    | none =>
      simp only [answer, held]
      rfl
    | some h =>
      have out : (b.answer (.expire now)).value.1 = .released (h.expire now).1 := by
        simp only [answer, held]
        rfl
      obtain ⟨_, _, keys⟩ := expire_keys held now
      refine (keys k).trans (if_neg fun released => ?_)
      obtain ⟨c, inside, key⟩ := List.mem_map.mp released
      exact unsaid (.expire out inside) key
  | holdPress c now =>
    simp only [answer]
    cases b.hold with
    | none => rfl
    | some h => rfl
  | writeSnapshot text =>
    simp only [answer, Logged.value_bind, Host.writeSnapshot]
    cases Registers.ofText text with
    | error e => rfl
    | ok registers => rfl
  | poke start data =>
    simp only [answer]
    cases b.host.session.machine.memory.write? start data with
    | none => rfl
    | some memory => rfl
  | _ => rfl

/-- A single step without a word on a key leaves it alone. -/
theorem keyState_of_silent {b : Bench} {s : Step} (single : s.isSingle = true) {k : Key}
    (silent : ¬ b.Concerns k s) : (b.perform s).2.keyState k = b.keyState k := by
  cases s with
  | request r => exact keyState_answer_of_silent silent
  | refresh pump now =>
    simp only [keyState, Host.keyState, session_perform single, stepChanges, refreshChanges]
    split
    · rfl
    · rfl
  | run pump script => cases single
  | addPump => rfl
  | setDisplay d => rfl

/-! ## The last word -/

theorem keyState_after_of_silent {steps : List Step} (single : ∀ s ∈ steps, s.isSingle = true)
    {k : Key} {b : Bench} (silent : Never (Concerns k) b steps) :
    (b.after steps).keyState k = b.keyState k := by
  induction steps generalizing b with
  | nil => rfl
  | cons s steps ih =>
    obtain ⟨now, later⟩ := never_cons.mp silent
    rw [after_cons, ih (fun t part => single t (.tail _ part)) later,
      keyState_of_silent (single s (.head _)) now]

/-- Until there is another word on a key, it stays as it was typed. -/
theorem keyState_after_types {early late : List Step} {s : Step}
    (single : ∀ t ∈ late, t.isSingle = true) {b : Bench} {c : Char} {state : KeyState}
    (types : (b.after early).Types s c state) {k : Key} (key : (b.after early).key? c = some k)
    (silent : Never (Concerns k) ((b.after early).perform s).2 late) :
    (b.after (early ++ s :: late)).keyState k = state := by
  rw [after_append, after_cons, keyState_after_of_silent single silent,
    keyState_of_types types key]

/-- Until there is another word on a key, it stays released after the keypad was cleared. -/
theorem keyState_after_clears {early late : List Step} {s : Step}
    (single : ∀ t ∈ late, t.isSingle = true) {b : Bench} (clears : (b.after early).Clears s)
    {k : Key} (silent : Never (Concerns k) ((b.after early).perform s).2 late) :
    (b.after (early ++ s :: late)).keyState k = .released := by
  rw [after_append, after_cons, keyState_after_of_silent single silent,
    keyState_of_clears clears]

/-- A key that was released at first is released if the keypad was cleared after every word of
its characters. -/
theorem keyState_after_of_not_typed {steps : List Step} (single : ∀ s ∈ steps, s.isSingle = true)
    {b : Bench} {k : Key} (released : b.keyState k = .released)
    (cleared : ∀ early s late c state, steps = early ++ s :: late →
      (b.after early).Types s c state → (b.after early).key? c = some k →
        ¬ Never Clears ((b.after early).perform s).2 late) :
    (b.after steps).keyState k = .released := by
  obtain silent | ⟨early, s, late, rfl, concerns, silent⟩ := never_or_last (Concerns k) b steps
  · exact (keyState_after_of_silent single silent).trans released
  · have later : ∀ t ∈ late, t.isSingle = true := fun t part => single t (by simp [part])
    obtain clears | ⟨c, state, types, key⟩ := concerns
    · exact keyState_after_clears later clears silent
    · exact absurd (silent.mono fun _ _ clears => .inl clears)
        (cleared early s late c state rfl types key)

/-! ## The layout -/

theorem layout_withSession (b : Bench) (s : Session) :
    (b.withSession s).host.layout = b.host.layout := rfl

theorem layout_perform {b : Bench} {s : Step} (single : s.isSingle = true) :
    (b.perform s).2.host.layout = b.host.layout := by
  by_cases opens : b.Opens s
  · obtain ⟨path, rfl, done⟩ := opens
    obtain ⟨program, _, opened⟩ | ⟨e, _, failed⟩ := b.openFile_cases path
    · simp only [perform, opened]
      exact (Host.layout_remembering _ path).trans (b.host.layout_loaded program)
    · rw [failed] at done
      cases done
  · exact (sameSettings_perform single opens).layout

theorem layout_after {steps : List Step} (single : ∀ s ∈ steps, s.isSingle = true) (b : Bench) :
    (b.after steps).host.layout = b.host.layout := by
  induction steps generalizing b with
  | nil => rfl
  | cons s steps ih =>
    rw [after_cons, ih (fun t part => single t (.tail _ part)),
      layout_perform (single s (.head _))]

end Bench

/-! ## Nothing depends on the keypad -/

namespace Host

/-- The host with another keypad. -/
def withKeypad (h : Host) (p : Keypad) : Host :=
  { h with session := { h.session with machine := { h.session.machine with keypad := p } } }

/-- A load looks at no key and releases all. -/
theorem loaded_withKeypad (h : Host) (p : Keypad) (program : Bytes) :
    (h.withKeypad p).loaded program = (h.loaded program).withKeypad .allReleased := by
  obtain ⟨⟨⟨memory, registers, keypad, frame, seed, debt⟩, clock, valid⟩, control, layout, path⟩ := h
  rfl

/-- However a reload ends, it ends so with another keypad, too. -/
theorem reload_withKeypad (h : Host) (p : Keypad) (read : FileReader) :
    ∃ q, ((h.withKeypad p).reload read).value = (h.reload read).value.map id (·.withKeypad q) := by
  cases remembered : h.programPath with
  | none =>
    rw [value_reload_none h read remembered, value_reload_none (h.withKeypad p) read remembered]
    exact ⟨p, rfl⟩
  | some path =>
    rw [value_reload_some h read remembered, value_reload_some (h.withKeypad p) read remembered]
    cases read.program path with
    | error e => exact ⟨p, rfl⟩
    | ok program => exact ⟨.allReleased, Prod.ext rfl (h.loaded_withKeypad p program)⟩

theorem keyEvent_withKeypad (h : Host) (p : Keypad) (c : Char) (state : KeyState) :
    ∃ q, ((h.withKeypad p).keyEvent c state).value =
      (h.keyEvent c state).value.map id (·.withKeypad q) := by
  have same : (h.withKeypad p).layout = h.layout := rfl
  unfold keyEvent
  rw [same]
  cases h.layout.key? c with
  | none => exact ⟨p, rfl⟩
  | some k => exact ⟨p.set k state, rfl⟩

theorem handle_withKeypad (h : Host) (p : Keypad) (read : FileReader) (e : HostEvent) :
    ∃ q, ((h.withKeypad p).handle read e).value =
      (h.handle read e).value.map id (·.withKeypad q) := by
  cases e with
  | key c state =>
    obtain ⟨q, same⟩ := h.keyEvent_withKeypad p c state
    refine ⟨q, ?_⟩
    simp only [handle, Logged.value_bind, same]
    rfl
  | reset =>
    refine ⟨.allReleased, ?_⟩
    simp only [handle, Logged.value_bind, value_reset, loaded_withKeypad]
    rfl
  | reload =>
    obtain ⟨q, same⟩ := h.reload_withKeypad p read
    refine ⟨q, ?_⟩
    rw [value_handle_reload, value_handle_reload, same]
    rfl
  | start => exact ⟨p, rfl⟩
  | dumpRegisters => exact ⟨p, rfl⟩
  | quit => exact ⟨p, rfl⟩

end Host

namespace Bench

/-- The bench with another keypad. -/
def withKeypad (b : Bench) (p : Keypad) : Bench := { b with host := b.host.withKeypad p }

theorem releaseAll_withKeypad (b : Bench) (p : Keypad) (cs : List Char) :
    ∃ q, ((b.withKeypad p).releaseAll cs).value = (b.releaseAll cs).value.withKeypad q := by
  induction cs generalizing b p with
  | nil => exact ⟨p, rfl⟩
  | cons c cs ih =>
    obtain ⟨q, same⟩ := b.host.handle_withKeypad p b.files.read (.key c .released)
    obtain ⟨q', rest⟩ :=
      ih { b with host := (b.host.handle b.files.read (.key c .released)).value.2 } q
    refine ⟨q', ?_⟩
    simp only [releaseAll, Logged.value_bind]
    rw [← rest]
    exact congrArg (fun handled : Bool × Host =>
      ({ b with host := handled.2 }.releaseAll cs).value) same

/-- What comes of a request does not depend on the keypad, and nor does what it does apart
from the keypad. -/
theorem answer_withKeypad (b : Bench) (p : Keypad) (r : Request) :
    ∃ q, ((b.withKeypad p).answer r).value = (b.answer r).value.map id (·.withKeypad q) := by
  cases r with
  | load program =>
    simp only [answer, Logged.value_bind, Host.value_load]
    cases fitting program with
    | error e => exact ⟨p, rfl⟩
    | ok program => exact ⟨.allReleased, rfl⟩
  | loadFrom source =>
    simp only [answer, Logged.value_bind, Host.value_loadFrom]
    cases source.program with
    | error e => exact ⟨p, rfl⟩
    | ok program => exact ⟨.allReleased, rfl⟩
  | openFile path =>
    simp only [answer, Logged.value_bind, Host.value_openFile, withKeypad]
    cases b.files.read.program path with
    | error e => exact ⟨p, rfl⟩
    | ok program => exact ⟨.allReleased, rfl⟩
  | loadFile path =>
    simp only [answer, Logged.value_bind, Host.value_loadFile, withKeypad]
    cases b.files.read.program path with
    | error e => exact ⟨p, rfl⟩
    | ok program => exact ⟨.allReleased, rfl⟩
  | reload =>
    obtain ⟨q, same⟩ := b.host.reload_withKeypad p b.files.read
    refine ⟨q, ?_⟩
    simp only [answer, Logged.value_bind, withKeypad, same]
    obtain ⟨result, h⟩ := (b.host.reload b.files.read).value
    cases result with
    | error e => rfl
    | ok loaded => rfl
  | reset => exact ⟨.allReleased, rfl⟩
  | key c state =>
    obtain ⟨q, same⟩ := b.host.keyEvent_withKeypad p c state
    refine ⟨q, ?_⟩
    simp only [answer, Logged.value_bind, withKeypad, same]
    rfl
  | event e =>
    obtain ⟨q, same⟩ := b.host.handle_withKeypad p b.files.read e
    refine ⟨q, ?_⟩
    simp only [answer, Logged.value_bind, withKeypad, same]
    rfl
  | keyboard e now =>
    simp only [answer, Logged.value_bind, withKeypad]
    obtain ⟨asked, hold⟩ := (e.meaning b.hold now).value
    cases asked with
    | none => exact ⟨p, rfl⟩
    | some asked =>
      obtain ⟨q, same⟩ := b.host.handle_withKeypad p b.files.read asked
      refine ⟨q, ?_⟩
      simp only [Logged.value_bind, same]
      rfl
  | expire now =>
    obtain ⟨host, files, hold, display, pumps⟩ := b
    cases hold with
    | none => exact ⟨p, rfl⟩
    | some hold =>
      obtain ⟨q, same⟩ :=
        releaseAll_withKeypad ⟨host, files, some (hold.expire now).2, display, pumps⟩ p
          (hold.expire now).1
      exact ⟨q, congrArg (Prod.mk _) same⟩
  | holdPress c now =>
    obtain ⟨host, files, hold, display, pumps⟩ := b
    cases hold with
    | none => exact ⟨p, rfl⟩
    | some hold => exact ⟨p, rfl⟩
  | writeSnapshot text =>
    simp only [answer, Logged.value_bind, Host.writeSnapshot]
    cases Registers.ofText text with
    | error e => exact ⟨p, rfl⟩
    | ok r => exact ⟨p, rfl⟩
  | poke start data =>
    have same : (b.withKeypad p).host.session.machine.memory = b.host.session.machine.memory := rfl
    simp only [answer, same]
    cases b.host.session.machine.memory.write? start data with
    | none => exact ⟨p, rfl⟩
    | some memory => exact ⟨p, rfl⟩
  | _ => exact ⟨p, rfl⟩

theorem tick_withKeypad (b : Bench) (p : Keypad) (pump : Nat) (now : Binary64) :
    ((b.withKeypad p).tick pump now).value = (b.tick pump now).value.map id (·.withKeypad p) := by
  cases admitted : b.host.control.admits with
  | false =>
    rw [value_tick_refused pump now admitted,
      value_tick_refused (b := b.withKeypad p) pump now admitted]
    rfl
  | true =>
    rw [value_tick_admitted pump now admitted,
      value_tick_admitted (b := b.withKeypad p) pump now admitted]
    rfl

end Bench

/-- Benches that differ in the keypad at most. -/
def Bench.EqualButKeypad (b b' : Bench) : Prop := ∃ p, b' = b.withKeypad p

/-- Whether a step is a key event. -/
def Step.isKeyEvent : Step → Bool
  | .request (.key _ _) => true
  | .request (.event (.key _ _)) => true
  | _ => false

namespace Bench.EqualButKeypad

variable {b b' : Bench}

theorem refl (b : Bench) : b.EqualButKeypad b := ⟨b.host.session.machine.keypad, rfl⟩

theorem trans {b'' : Bench} (first : b.EqualButKeypad b') (second : b'.EqualButKeypad b'') :
    b.EqualButKeypad b'' := by
  obtain ⟨p, rfl⟩ := first
  obtain ⟨q, rfl⟩ := second
  exact ⟨q, rfl⟩

theorem symm (equal : b.EqualButKeypad b') : b'.EqualButKeypad b := by
  obtain ⟨p, rfl⟩ := equal
  exact ⟨b.host.session.machine.keypad, rfl⟩

/-- A single step comes to the same, and the benches go on to differ in the keypad at most. -/
theorem perform {s : Step} (single : s.isSingle = true) (equal : b.EqualButKeypad b') :
    (b'.perform s).1 = (b.perform s).1 ∧ (b.perform s).2.EqualButKeypad (b'.perform s).2 := by
  obtain ⟨p, rfl⟩ := equal
  cases s with
  | request r =>
    obtain ⟨q, same⟩ := b.answer_withKeypad p r
    simp only [Bench.perform, same]
    exact ⟨rfl, q, rfl⟩
  | refresh pump now =>
    simp only [Bench.perform, tick_withKeypad]
    exact ⟨rfl, p, rfl⟩
  | run pump script => cases single
  | addPump => exact ⟨rfl, p, rfl⟩
  | setDisplay d => exact ⟨rfl, p, rfl⟩

/-- A key event changes the keypad at most. -/
theorem of_isKeyEvent {s : Step} (event : s.isKeyEvent = true) :
    b.EqualButKeypad (b.perform s).2 := by
  have key (c : Char) (state : KeyState) :
      b.EqualButKeypad { b with host := (b.host.keyEvent c state).value.2 } := by
    unfold Host.keyEvent
    cases b.host.layout.key? c with
    | none => exact refl b
    | some k => exact ⟨b.host.session.machine.keypad.set k state, rfl⟩
  unfold Step.isKeyEvent at event
  split at event
  · exact key _ _
  · exact key _ _
  · cases event

/-- Without its key events some work comes to the same step by step, and leaves a bench that
differs in the keypad at most. -/
theorem deleted {steps : List Step} (single : ∀ s ∈ steps, s.isSingle = true)
    (equal : b.EqualButKeypad b') :
    let quiet := steps.filter fun s => !s.isKeyEvent
    (b'.trace quiet).map Entry.outcome =
        ((b.trace steps).filter fun t => !t.step.isKeyEvent).map Entry.outcome ∧
      (b.after steps).EqualButKeypad (b'.after quiet) := by
  induction steps generalizing b b' with
  | nil => exact ⟨rfl, equal⟩
  | cons s steps ih =>
    have later : ∀ t ∈ steps, t.isSingle = true := fun t part => single t (.tail _ part)
    cases event : s.isKeyEvent with
    | true =>
      obtain ⟨outcomes, last⟩ := ih later ((of_isKeyEvent event).symm.trans equal)
      simp only [List.filter_cons, event, Bench.trace]
      exact ⟨outcomes, last⟩
    | false =>
      obtain ⟨same, next⟩ := equal.perform (single s (.head _))
      obtain ⟨outcomes, last⟩ := ih later next
      simp only [List.filter_cons, event, Bench.trace, Bool.not_false, if_true, List.map_cons, same,
        outcomes]
      exact ⟨trivial, last⟩

end Bench.EqualButKeypad

namespace Bench

theorem value_key_unmapped {b : Bench} {c : Char} (unmapped : b.key? c = none) (state : KeyState) :
    (b.answer (.key c state)).value = (.key none, b) ∧
      (b.answer (.event (.key c state))).value = (.flag true, b) := by
  have nowhere : b.host.layout.key? c = none := unmapped
  simp only [answer, Host.handle, Host.keyEvent, Logged.value_bind, nowhere]
  exact ⟨rfl, rfl⟩

/-- The keypad is the last word of the input.  Take a machine just switched on with any layout,
any work with its runs unrolled, and any point in it.  A key is as the latest step has it that
told of one of its characters after the latest step that cleared the keypad, and it is released
if there is none.

Key events change nothing else: each leaves a bench that differs in the keypad at most, and if
all of them are deleted, every other step comes to the same and so does the bench in the end,
but for the keypad.  A character the layout does not map changes nothing at all.  Two characters
that it maps stand for the same key exactly if they are equal in lower case, and every key has
a character. -/
theorem keypad_is_last_word (w : Bench) (seed : UInt64) (steps : List Step) :
    let b := w.withSession (.start seed)
    let flat := b.unrolledAll steps
    b.after flat = b.after steps ∧
      (∀ before, before <+: flat →
        let here := b.after before
        let quiet := before.filter fun s => !s.isKeyEvent
        here.host.layout = w.host.layout ∧
          (∀ k early s late c state, before = early ++ s :: late →
            (b.after early).Types s c state → (b.after early).key? c = some k →
              Never (Concerns k) ((b.after early).perform s).2 late → here.keyState k = state) ∧
          (∀ k, (∀ early s late c state, before = early ++ s :: late →
              (b.after early).Types s c state → (b.after early).key? c = some k →
                ¬ Never Clears ((b.after early).perform s).2 late) →
            here.keyState k = .released) ∧
          (∀ s, s.isKeyEvent = true → here.EqualButKeypad (here.perform s).2) ∧
          (b.trace quiet).map Entry.outcome =
            ((b.trace before).filter fun t => !t.step.isKeyEvent).map Entry.outcome ∧
          here.EqualButKeypad (b.after quiet) ∧
          ∀ c state, here.key? c = none →
            (here.answer (.key c state)).value = (.key none, here) ∧
              (here.answer (.event (.key c state))).value = (.flag true, here)) ∧
      (∀ (l : Layout) c c' k k', l.key? c = some k → l.key? c' = some k' →
        (k = k' ↔ c.toLower = c'.toLower)) ∧
      ∀ (l : Layout) k, ∃ c, l.key? c = some k := by
  intro b flat
  refine ⟨b.after_unrolledAll steps, ?_, fun l c c' k k' => Layout.same_key_iff,
    fun l k => ⟨l.face k, l.key?_face k⟩⟩
  intro before initial here quiet
  have single : ∀ s ∈ before, s.isSingle = true :=
    fun s part => isSingle_unrolledAll (initial.subset part)
  have released (k : Key) : b.keyState k = .released := Keypad.get_allReleased k
  obtain ⟨outcomes, last⟩ := (EqualButKeypad.refl b).deleted single
  refine ⟨(layout_after single b).trans (w.layout_withSession _), ?_,
    fun k => keyState_after_of_not_typed single (released k), fun s => .of_isKeyEvent, outcomes,
    last, fun c state unmapped => value_key_unmapped unmapped state⟩
  rintro k early s late c state rfl types key silent
  exact keyState_after_types (fun t part => single t (by simp [part])) types key silent

/-- A key stays pressed when a reload finds nothing to load, and is released by a reset. -/
theorem keypad_is_last_word_of_failed_reload :
    let b := (default : Bench).withSession (.start 0)
    let typed : Step := .request (.key 'w' .pressed)
    let reload : Step := .request .reload
    let reset : Step := .request .reset
    (b.after [typed, reload]).keyState ⟨5⟩ = .pressed ∧
      (b.after [typed, reload, reset]).keyState ⟨5⟩ = .released ∧
      b.EqualButKeypad (b.perform typed).2 ∧
      (b.answer (.key 'p' .pressed)).value = (.key none, b) ∧
      ∀ k, Layout.conventional.key? 'W' = some k → k = ⟨5⟩ := by
  intro b typed reload reset
  obtain ⟨_, points, letters, _⟩ := keypad_is_last_word default 0 [typed, reload, reset]
  have five : Layout.conventional.key? 'w' = some ⟨5⟩ := by decide
  have idle {here : Bench} {t : Step} {c : Char} {state : KeyState}
      (other : t = .request .reload ∨ t = .request .reset) : ¬ here.Types t c state := by
    intro types
    cases types <;> simp at other
  obtain ⟨_, _, _, only, _, _, unmapped⟩ := points [] List.nil_prefix
  obtain ⟨_, latest, _⟩ := points [typed, reload] ⟨[reset], rfl⟩
  obtain ⟨_, _, none, _⟩ := points [typed, reload, reset] List.prefix_rfl
  refine ⟨latest ⟨5⟩ [] typed [reload] 'w' .pressed rfl (.key 'w' .pressed) five ?_,
    none ⟨5⟩ fun early s late c state split types key never => ?_, only typed rfl,
    (unmapped 'p' .pressed (by decide)).1,
    fun k mapped => (letters .conventional 'W' 'w' k ⟨5⟩ mapped five).mpr (by decide)⟩
  · refine never_cons.mpr ⟨?_, never_nil⟩
    rintro (⟨r, same, _, cuts⟩ | ⟨c, state, types, _⟩)
    · obtain rfl : Request.reload = r := Step.request.inj same
      cases cuts_reload_iff.mp cuts
    · exact idle (.inl rfl) types
  · -- only the first step types, and the reset comes after it
    cases early with
    | nil =>
      cases split
      exact (never_cons.mp (never_cons.mp never).2).1 ⟨.reset, rfl, by simp, .reset⟩
    | cons t early =>
      have inside : s = reload ∨ s = reset := by
        have part : s ∈ [reload, reset] := by
          rw [(List.cons.inj split).2]
          simp
        simpa using part
      exact idle inside types

end Bench

end VipHost
