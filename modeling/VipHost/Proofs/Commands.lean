import VipHost.Proofs.Typing

/-!
# Commands of the keyboard

What a keyboard event asks for is read off the kind of event it is (`KeyEvent.comesTo`).  Commands
other than quitting come of presses alone: when the key is kept down they do not come again.  A
repeat of a command key is nothing, unless the key has a character, as the space bar does; then it
is typed.

The hold is cleared by a reset and a reload, and renewed in the one character that is typed.
Nothing else touches it.
-/

namespace VipHost

/-- Anything but a key for the keypad. -/
def HostEvent.isCommand : HostEvent → Bool
  | .key _ _ => false
  | _ => true

theorem any_clearsKeypad_iff {asked : Option HostEvent} :
    asked.any HostEvent.clearsKeypad = true ↔ asked = some .reset ∨ asked = some .reload := by
  cases asked with
  | none => simp
  | some event => cases event <;> simp [HostEvent.clearsKeypad]

/-! ## Keys with a command -/

namespace KeyCode

theorem command?_eq_start_iff {code : KeyCode} :
    code.command? = some .start ↔ code = .named .enter ∨ code = .char ' ' := by
  unfold command?
  split <;> simp_all

theorem command?_eq_reset_iff {code : KeyCode} :
    code.command? = some .reset ↔ code = .named .backspace := by
  unfold command?
  split <;> simp_all

theorem command?_eq_reload_iff {code : KeyCode} :
    code.command? = some .reload ↔ code = .function 5 := by
  unfold command?
  split <;> simp_all

theorem command?_eq_dumpRegisters_iff {code : KeyCode} :
    code.command? = some .dumpRegisters ↔ code = .function 2 := by
  unfold command?
  split <;> simp_all

theorem isCommand_of_command? {code : KeyCode} {command : HostEvent}
    (has : code.command? = some command) : command.isCommand = true ∧ command ≠ .quit := by
  unfold command? at has
  split at has <;> cases has <;> exact ⟨rfl, nofun⟩

/-- A key that may quit has no other command. -/
theorem command?_of_quits {e : KeyEvent} (quits : e.quits = true) : e.code.command? = none := by
  obtain isEsc | ⟨isC, _⟩ := KeyEvent.quits_iff.mp quits
  · rw [isEsc]
    rfl
  · rw [isC]
    rfl

end KeyCode

/-! ## What is asked for -/

namespace KeyEvent

section

variable {e : KeyEvent} {hold : Option Hold} {now : Nat} {m : Option HostEvent × Option Hold}
  (came : e.ComesTo hold now m)

theorem releaseMeaning_eq_some_iff {event : HostEvent} :
    e.releaseMeaning hold = some event ↔
      hold = none ∧ ∃ c, e.code = .char c ∧ event = .key c .released := by
  unfold releaseMeaning
  split
  next c isChar => simp [isChar, eq_comm]
  next noPair =>
    simp only [reduceCtorEq, false_iff, not_and, not_exists]
    intro noHold c isChar
    exact absurd noHold (noPair c isChar)

/-- A character is never passed on as a command. -/
theorem not_isCommand_of_charMeaning {c : Char} {repeated : Bool} {event : HostEvent}
    (asked : (charMeaning c repeated hold now).1 = some event) : ¬ event.isCommand = true := by
  cases hold with
  | none =>
    rw [charMeaning, Option.ite_none_left_eq_some] at asked
    obtain ⟨_, ⟨⟩⟩ := asked
    exact Bool.false_ne_true
  | some h =>
    rw [charMeaning, Option.ite_none_right_eq_some] at asked
    obtain ⟨_, ⟨⟩⟩ := asked
    exact Bool.false_ne_true

include came

/-- The commands other than quitting come of the presses of their keys. -/
theorem ComesTo.command_iff {command : HostEvent} (isCommand : command.isCommand = true)
    (goesOn : command ≠ .quit) :
    m.1 = some command ↔ e.action = .press ∧ e.code.command? = some command := by
  cases came with
  | release released =>
    simp only [releaseMeaning_eq_some_iff, released, reduceCtorEq, false_and, iff_false]
    rintro ⟨_, c, _, rfl⟩
    cases isCommand
  | quit _ quits =>
    simp [KeyCode.command?_of_quits quits, goesOn.symm]
  | command pressed _ has =>
    simp [pressed, has]
  | character types =>
    obtain ⟨_, _, _, noCommand⟩ := typed?_eq_some_iff.mp types
    constructor
    · intro asked
      exact absurd isCommand (not_isCommand_of_charMeaning asked)
    · rintro ⟨pressed, has⟩
      cases (noCommand pressed).symm.trans has
  | nothing _ _ _ noCommand =>
    simp only [reduceCtorEq, false_iff, not_and]
    intro pressed has
    cases (noCommand pressed).symm.trans has

/-- Quitting comes of presses and repeats. -/
theorem ComesTo.quit_iff : m.1 = some .quit ↔ e.action ≠ .release ∧ e.quits = true := by
  cases came with
  | release released => simp [releaseMeaning_eq_some_iff, released]
  | quit typing quits => simp [typing, quits]
  | command _ goesOn has => simp [goesOn, (KeyCode.isCommand_of_command? has).2]
  | character types =>
    obtain ⟨_, _, goesOn, _⟩ := typed?_eq_some_iff.mp types
    constructor
    · intro asked
      exact absurd rfl (not_isCommand_of_charMeaning asked)
    · rintro ⟨_, quits⟩
      exact absurd quits goesOn
  | nothing _ _ goesOn => simp [goesOn]

/-- What is typed is a character whose press or repeat is not taken as a command. -/
theorem ComesTo.typed?_iff (c : Char) :
    e.typed? = some c ↔ e.code = .char c ∧ e.action ≠ .release ∧
      ¬ m.1.any HostEvent.isCommand = true := by
  rw [typed?_eq_some_iff]
  cases came with
  | release released => simp [released]
  | quit _ quits => simp [quits, HostEvent.isCommand]
  | command pressed _ has => simp [pressed, has, (KeyCode.isCommand_of_command? has).1]
  | @character d types =>
    obtain ⟨_, typing, goesOn, noCommand⟩ := typed?_eq_some_iff.mp types
    have spared : ¬ (charMeaning d (e.action = .repeated) hold now).1.any HostEvent.isCommand := by
      rw [Option.any_eq_true]
      rintro ⟨event, asked, isCommand⟩
      exact not_isCommand_of_charMeaning asked isCommand
    constructor
    · rintro ⟨isChar, _⟩
      exact ⟨isChar, typing, spared⟩
    · rintro ⟨isChar, _⟩
      exact ⟨isChar, typing, goesOn, noCommand⟩
  | nothing noCharacter => simp [noCharacter]

theorem ComesTo.eq_of_release (released : e.action = .release) :
    m = (e.releaseMeaning hold, hold) := by
  cases came with
  | release => rfl
  | quit typing => exact absurd released typing
  | command pressed => cases pressed.symm.trans released
  | character types => exact absurd released (typed?_eq_some_iff.mp types).2.1
  | nothing _ typing => exact absurd released typing

/-! ## The hold -/

/-- A repeat that does not quit is dropped without a hold. -/
theorem ComesTo.repeat_without_hold (noHold : hold = none) (repeated : e.action = .repeated) :
    m.1 = none ∨ m.1 = some .quit := by
  subst noHold
  cases came with
  | release released => cases released.symm.trans repeated
  | quit => exact .inr rfl
  | command pressed => cases pressed.symm.trans repeated
  | character => exact .inl (by simp [charMeaning, repeated])
  | nothing => exact .inl rfl

theorem ComesTo.left_without_hold (noHold : hold = none) : m.2 = none := by
  subst noHold
  cases came with
  | release => rfl
  | quit => rfl
  | command => exact ite_self none
  | character => rfl
  | nothing => rfl

/-- An event that types nothing clears the hold or keeps it. -/
theorem ComesTo.left_of_untyped {h : Hold} (given : hold = some h)
    (untyped : ∀ c, e.typed? ≠ some c) :
    m.2 = some (if m.1.any HostEvent.clearsKeypad then h.clear else h) := by
  subst given
  cases came with
  | release => rw [releaseMeaning_some]; rfl
  | quit => rfl
  | command => exact (apply_ite some _ _ _).symm
  | character types => exact absurd types (untyped _)
  | nothing => rfl

end

/-- Start, reset, reload and the registers are asked for by presses of their keys alone, quitting
by presses and repeats.  A release is passed on without a hold, and a repeat is not.  A hold is
emptied by a reset or a reload, gets the instant of a character that is pressed or repeated and not
taken as a command, which is passed on if it was not held, and is the same after anything else. -/
theorem commands_come_once_and_spare_the_hold (e : KeyEvent) (hold : Option Hold) (now : Nat) :
    let asked := (e.meaning hold now).value.1
    let left := (e.meaning hold now).value.2
    (asked = some .start ↔ e.action = .press ∧ (e.code = .named .enter ∨ e.code = .char ' ')) ∧
    (asked = some .reset ↔ e.action = .press ∧ e.code = .named .backspace) ∧
    (asked = some .reload ↔ e.action = .press ∧ e.code = .function 5) ∧
    (asked = some .dumpRegisters ↔ e.action = .press ∧ e.code = .function 2) ∧
    (asked = some .quit ↔ e.action ≠ .release ∧
      (e.code = .named .esc ∨ (e.code = .char 'c' ∧ e.modifiers.control = true))) ∧
    (e.action = .release → ∀ event, asked = some event ↔
      hold = none ∧ ∃ c, e.code = .char c ∧ event = .key c .released) ∧
    (hold = none → left = none ∧
      (e.action = .repeated → asked = none ∨ asked = some .quit) ∧
      ∀ c, e.code = .char c → e.action = .press → ¬ asked.any HostEvent.isCommand = true →
        asked = some (.key c .pressed)) ∧
    ∀ h, hold = some h →
      (asked = some .reset ∨ asked = some .reload →
        ∃ h', left = some h' ∧ h'.duration = h.duration ∧ h'.held = []) ∧
      (∀ c, e.code = .char c → e.action ≠ .release → ¬ asked.any HostEvent.isCommand = true →
        asked = (if h.isHeld c then none else some (.key c .pressed)) ∧
        ∃ h', left = some h' ∧ h'.duration = h.duration ∧
          ∀ d, h'.since? d = if d = c then some now else h.since? d) ∧
      (¬ (asked = some .reset ∨ asked = some .reload) →
        (∀ c, e.code = .char c → e.action ≠ .release → asked.any HostEvent.isCommand = true) →
        left = some h) := by
  intro asked left
  have came : e.ComesTo hold now (asked, left) := e.comesTo hold now
  have asks {command : HostEvent} (isCommand : command.isCommand = true)
      (goesOn : command ≠ .quit) :
      asked = some command ↔ e.action = .press ∧ e.code.command? = some command :=
    came.command_iff isCommand goesOn
  refine ⟨?_, ?_, ?_, ?_, ?_, fun released event => ?_,
    fun noHold => ⟨came.left_without_hold noHold, came.repeat_without_hold noHold, ?_⟩,
    fun h given =>
      ⟨fun clears => ?_, fun c isChar typing spared => ?_, fun keeps noCharacter => ?_⟩⟩
  · rw [asks rfl (by decide), KeyCode.command?_eq_start_iff]
  · rw [asks rfl (by decide), KeyCode.command?_eq_reset_iff]
  · rw [asks rfl (by decide), KeyCode.command?_eq_reload_iff]
  · rw [asks rfl (by decide), KeyCode.command?_eq_dumpRegisters_iff]
  · exact came.quit_iff.trans (and_congr_right' quits_iff)
  · have passed : asked = e.releaseMeaning hold := congrArg Prod.fst (came.eq_of_release released)
    rw [passed, releaseMeaning_eq_some_iff]
  · intro c isChar pressed spared
    have types := (came.typed?_iff c).mpr ⟨isChar, by simp [pressed], spared⟩
    have typed := congrArg Prod.fst (came.eq_of_typed types)
    simpa [noHold, charMeaning, pressed] using typed
  · have untyped : ∀ c, e.typed? ≠ some c := by
      intro c types
      obtain ⟨_, _, spared⟩ := (came.typed?_iff c).mp types
      obtain asks | asks := clears
      · exact spared (by rw [asks]; rfl)
      · exact spared (by rw [asks]; rfl)
    have cleared := came.left_of_untyped given untyped
    rw [if_pos (any_clearsKeypad_iff.mpr clears)] at cleared
    exact ⟨h.clear, cleared, rfl, rfl⟩
  · have typed := came.eq_of_typed ((came.typed?_iff c).mpr ⟨isChar, typing, spared⟩)
    rw [given, charMeaning_some] at typed
    exact ⟨congrArg Prod.fst typed, (h.press c now).2, congrArg Prod.snd typed, rfl,
      fun d => h.since?_press c d now⟩
  · have untyped : ∀ c, e.typed? ≠ some c := by
      intro c types
      obtain ⟨isChar, typing, spared⟩ := (came.typed?_iff c).mp types
      exact spared (noCharacter c isChar typing)
    have kept := came.left_of_untyped given untyped
    rwa [if_neg fun clears => keeps (any_clearsKeypad_iff.mp clears)] at kept

/-- A repeat of the space bar does not start, as its press does, but is typed, beside a character
that is held already. -/
theorem commands_come_once_and_spare_the_hold_of_space :
    let space : KeyEvent := { code := .char ' ', action := .repeated }
    let h := ((default : Hold).press 'x' 7).2
    (space.meaning (some h) 9).value.1 = some (.key ' ' .pressed) ∧
    (∃ h', (space.meaning (some h) 9).value.2 = some h' ∧
      h'.since? ' ' = some 9 ∧ h'.since? 'x' = some 7) ∧
    ({ space with action := .press }.meaning (some h) 9).value = (some .start, some h) := by
  intro space h
  obtain ⟨_, _, _, _, _, _, _, held⟩ := commands_come_once_and_spare_the_hold space (some h) 9
  obtain ⟨_, typed, _⟩ := held h rfl
  obtain ⟨asked, h', left, _, since⟩ := typed ' ' rfl (by decide) (by decide)
  obtain ⟨start, _, _, _, _, _, _, held⟩ :=
    commands_come_once_and_spare_the_hold { space with action := .press } (some h) 9
  have starts := start.mpr ⟨rfl, .inr rfl⟩
  obtain ⟨_, _, kept⟩ := held h rfl
  refine ⟨asked, ⟨h', left, since ' ', since 'x'⟩, Prod.ext starts (kept ?_ ?_)⟩
  · rw [starts]
    nofun
  · intro c _ _
    rw [starts]
    rfl

end KeyEvent

end VipHost
