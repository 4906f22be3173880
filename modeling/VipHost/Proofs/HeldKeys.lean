import VipHost.Proofs.Typing

/-!
# Held characters and pressed keys

While somebody types, the hold and the keypad should tell the same story.  A
pressed key should have a held character that stands for it, or it is *stuck*
(`Bench.NoStuckKey`); and the key that a held character stands for should be
pressed (`Bench.HeldKeysPressed`).

Each of these is broken in one way.  A press of F5 that loads nothing forgets the
held characters and leaves their keys pressed (`Bench.Strands`).  Two characters
may stand for one key, as the two cases of a letter do, and the one that runs out
first releases the key of the other (`Bench.CutsShort`).  The theorems say that
nothing else breaks them.
-/

namespace VipHost

/-! ## Held characters -/

namespace Hold

theorem isHeld_press (h : Hold) (c d : Char) (now : Nat) :
    (h.press c now).2.isHeld d = true ↔ d = c ∨ h.isHeld d = true := by
  rw [isHeld, since?_press]
  by_cases same : d = c
  · simp [same]
  · simp [same, isHeld]

theorem not_isHeld_clear (h : Hold) (c : Char) : ¬ h.clear.isHeld c = true := by
  simp [isHeld, since?_clear]

theorem isHeld_of_isHeld_expire {h : Hold} {c : Char} {now : Nat}
    (still : (h.expire now).2.isHeld c = true) : h.isHeld c = true := by
  rw [isHeld, since?_expire] at still
  rw [isHeld]
  cases since : h.since? c with
  | none =>
    rw [since] at still
    cases still
  | some t => rfl

/-- A held character runs out when its time is over. -/
theorem mem_expire_of_since? {h : Hold} {c : Char} {now t : Nat} (since : h.since? c = some t)
    (ended : h.hasExpired now t = true) : c ∈ (h.expire now).1 := by
  obtain ⟨l₁, l₂, split, _⟩ := List.lookup_eq_some_iff.mp since
  exact (h.mem_expire c now).mpr ⟨t, by simp [split], ended⟩

/-- What is held runs out or stays held. -/
theorem mem_expire_or_isHeld {h : Hold} {c : Char} (held : h.isHeld c = true) (now : Nat) :
    c ∈ (h.expire now).1 ∨ (h.expire now).2.isHeld c = true := by
  obtain ⟨t, since⟩ := Option.isSome_iff_exists.mp held
  cases ended : h.hasExpired now t with
  | true => exact .inl (mem_expire_of_since? since ended)
  | false =>
    refine .inr ?_
    rw [isHeld, since?_expire, since]
    simp [ended]

theorem isHeld_of_mem_expire {h : Hold} {c : Char} {now : Nat} (out : c ∈ (h.expire now).1) :
    h.isHeld c = true := by
  obtain ⟨t, here, _⟩ := (h.mem_expire c now).mp out
  rw [isHeld, since?, Option.isSome_iff_ne_none, ne_eq, List.lookup_eq_none_iff]
  intro absent
  simpa using absent _ here

end Hold

namespace Bench

/-- Whether a character is held. -/
def Holds (b : Bench) (c : Char) : Prop := ∃ h, b.hold = some h ∧ h.isHeld c = true

theorem holds_iff {b : Bench} {h : Hold} (held : b.hold = some h) (c : Char) :
    b.Holds c ↔ h.isHeld c = true := by
  simp [Holds, held]

/-- Every pressed key has a held character. -/
def NoStuckKey (b : Bench) : Prop :=
  ∀ k, b.keyState k = .pressed → ∃ c, b.Holds c ∧ b.key? c = some k

/-- Every held character has its key pressed. -/
def HeldKeysPressed (b : Bench) : Prop :=
  ∀ c k, b.Holds c → b.key? c = some k → b.keyState k = .pressed

/-- A step forgets which characters are held while a key stays pressed. -/
def Strands (b : Bench) (s : Step) : Prop :=
  b.ReloadsNothing s ∧ ∃ k, b.keyState k = .pressed

/-- A step lets a character run out while another one for the same key stays
held. -/
def CutsShort (b : Bench) (s : Step) : Prop :=
  ∃ h now, b.hold = some h ∧ s = .request (.expire now) ∧
    ∃ c ∈ (h.expire now).1, ∃ d k,
      (h.expire now).2.isHeld d = true ∧ b.key? c = some k ∧ b.key? d = some k

theorem nodup_held_nil : (([] : List (Char × Nat)).map (·.1)).Nodup := List.nodup_nil

/-- A bench with a fresh host and a fresh hold. -/
def switchedOn (w : Bench) (seed : UInt64) (layout : Layout) (duration : Nat) : Bench :=
  { w with
    host := (Host.start seed layout).value
    hold := some { duration, nodup_held := nodup_held_nil } }

theorem not_holds_switchedOn (w : Bench) (seed : UInt64) (layout : Layout) (duration : Nat)
    (c : Char) : ¬ (w.switchedOn seed layout duration).Holds c := by
  rw [holds_iff (h := { duration }) rfl]
  exact Hold.not_isHeld_clear { duration } c

theorem keyState_switchedOn (w : Bench) (seed : UInt64) (layout : Layout) (duration : Nat)
    (k : Key) : (w.switchedOn seed layout duration).keyState k = .released :=
  Keypad.get_allReleased k

theorem isSome_hold_perform {b : Bench} {s : Step} (typing : s.isTypingOrFiling = true)
    (held : ∃ h, b.hold = some h) : ∃ h, (b.perform s).2.hold = some h := by
  obtain ⟨h, held⟩ := held
  cases (keyWork held typing).2 with
  | idle hold _ => exact ⟨_, hold⟩
  | typed c now hold _ => exact ⟨_, hold⟩
  | ranOut now _ hold _ => exact ⟨_, hold⟩
  | loaded path _ hold _ => exact ⟨_, hold⟩
  | restarted hold _ => exact ⟨_, hold⟩
  | emptied _ hold _ => exact ⟨_, hold⟩

theorem not_noStuckKey_of_strands {b : Bench} {h : Hold} (held : b.hold = some h) {s : Step}
    (strands : b.Strands s) : ¬ (b.perform s).2.NoStuckKey := by
  obtain ⟨reloads, k, pressed⟩ := strands
  rw [bench_of_reloadsNothing held reloads]
  intro inv
  obtain ⟨c, holds, _⟩ := inv k pressed
  exact h.not_isHeld_clear c ((holds_iff rfl c).mp holds)

/-- Only a stranding step leaves a stuck key behind. -/
theorem noStuckKey_perform {b : Bench} {s : Step} (typing : s.isTypingOrFiling = true)
    (hold : ∃ h, b.hold = some h) (inv : b.NoStuckKey) :
    (b.perform s).2.NoStuckKey ↔ ¬ b.Strands s := by
  obtain ⟨h, held⟩ := hold
  constructor
  · intro inv' strands
    exact not_noStuckKey_of_strands held strands inv'
  · intro good k pressed
    obtain ⟨layout, work⟩ := keyWork held typing
    have sameKey : ∀ c, (b.perform s).2.key? c = b.key? c := by
      intro c
      rw [key?, layout, key?]
    cases work with
    | idle hold keys =>
      rw [keys] at pressed
      obtain ⟨c, holds, stands⟩ := inv k pressed
      rw [holds_iff held] at holds
      exact ⟨c, (holds_iff hold c).mpr holds, (sameKey c).trans stands⟩
    | typed c now hold keys =>
      rw [keys] at pressed
      split at pressed
      next fresh =>
        have holds := (h.isHeld_press c c now).mpr (.inl rfl)
        exact ⟨c, (holds_iff hold c).mpr holds, (sameKey c).trans fresh.2⟩
      next =>
        obtain ⟨d, holds, stands⟩ := inv k pressed
        rw [holds_iff held] at holds
        have holds' := (h.isHeld_press c d now).mpr (.inr holds)
        exact ⟨d, (holds_iff hold d).mpr holds', (sameKey d).trans stands⟩
    | ranOut now _ hold keys =>
      rw [keys] at pressed
      split at pressed
      next => cases pressed
      next others =>
        obtain ⟨c, holds, stands⟩ := inv k pressed
        rw [holds_iff held] at holds
        cases Hold.mem_expire_or_isHeld holds now with
        | inl out => exact absurd (List.mem_map.mpr ⟨c, out, stands⟩) others
        | inr still => exact ⟨c, (holds_iff hold c).mpr still, (sameKey c).trans stands⟩
    | loaded path _ _ keys =>
      rw [keys] at pressed
      cases pressed
    | restarted _ keys =>
      rw [keys] at pressed
      cases pressed
    | emptied reloads _ keys =>
      rw [keys] at pressed
      exact absurd ⟨reloads, k, pressed⟩ good

theorem not_heldKeysPressed_of_cutsShort {b : Bench} {s : Step} (short : b.CutsShort s) :
    ¬ (b.perform s).2.HeldKeysPressed := by
  obtain ⟨h, now, held, rfl, c, out, d, k, still, cKey, dKey⟩ := short
  obtain ⟨hold, layout, keys⟩ := expire_keys held now
  intro inv
  have stands : (b.perform (.request (.expire now))).2.key? d = some k := by
    rw [← dKey, key?, key?, ← layout]
    rfl
  have pressed := inv d k ((holds_iff hold d).mpr still) stands
  have released := (keys k).trans (if_pos (List.mem_map.mpr ⟨c, out, cKey⟩))
  cases released.symm.trans pressed

/-- Only a step that cuts a hold short leaves a held character with its key
released. -/
theorem heldKeysPressed_perform {b : Bench} {s : Step} (typing : s.isTyping = true)
    (hold : ∃ h, b.hold = some h) (inv : b.HeldKeysPressed) :
    (b.perform s).2.HeldKeysPressed ↔ ¬ b.CutsShort s := by
  obtain ⟨h, held⟩ := hold
  constructor
  · intro inv' short
    exact not_heldKeysPressed_of_cutsShort short inv'
  · intro good d k holds dKey
    obtain ⟨layout, work⟩ := keyWork held (Step.isTypingOrFiling_of_isTyping typing)
    have dKey' : b.key? d = some k := by rw [← dKey, key?, key?, layout]
    cases work with
    | idle hold keys =>
      rw [holds_iff hold, ← holds_iff held] at holds
      rw [keys]
      exact inv d k holds dKey'
    | typed c now hold keys =>
      rw [holds_iff hold, Hold.isHeld_press] at holds
      rw [keys]
      split
      · rfl
      next stale =>
        have before : h.isHeld d = true := by
          obtain rfl | before := holds
          · cases was : h.isHeld d with
            | true => rfl
            | false => exact absurd ⟨was, dKey'⟩ stale
          · exact before
        exact inv d k ((holds_iff held d).mpr before) dKey'
    | ranOut now expires hold keys =>
      rw [holds_iff hold] at holds
      rw [keys, if_neg]
      · have before := Hold.isHeld_of_isHeld_expire holds
        exact inv d k ((holds_iff held d).mpr before) dKey'
      · intro released
        obtain ⟨c, out, cKey⟩ := List.mem_map.mp released
        exact good ⟨h, now, held, expires, c, out, d, k, holds, cKey, dKey'⟩
    | loaded path opens _ _ =>
      rw [opens] at typing
      cases typing
    | restarted hold _ =>
      rw [holds_iff hold] at holds
      exact absurd holds (h.not_isHeld_clear d)
    | emptied _ hold _ =>
      rw [holds_iff hold] at holds
      exact absurd holds (h.not_isHeld_clear d)

/-- A key is not stuck if an expiry that comes late enough releases it. -/
theorem noStuckKey_iff_released_later {b : Bench} (hold : ∃ h, b.hold = some h) :
    b.NoStuckKey ↔
      ∀ k, b.keyState k = .pressed →
        ∃ t, ∀ now, t ≤ now → (b.perform (.request (.expire now))).2.keyState k = .released := by
  obtain ⟨h, held⟩ := hold
  constructor
  · intro inv k pressed
    obtain ⟨c, holds, stands⟩ := inv k pressed
    obtain ⟨since, hs⟩ := Option.isSome_iff_exists.mp ((holds_iff held c).mp holds)
    refine ⟨since + h.duration, fun now late => ?_⟩
    have ended : h.hasExpired now since = true := by
      simp only [Hold.hasExpired, decide_eq_true_eq]
      omega
    obtain ⟨_, _, keys⟩ := expire_keys held now
    have out := Hold.mem_expire_of_since? hs ended
    exact (keys k).trans (if_pos (List.mem_map.mpr ⟨c, out, stands⟩))
  · intro later k pressed
    obtain ⟨t, released⟩ := later k pressed
    obtain ⟨_, _, keys⟩ := expire_keys held t
    have now := (keys k).symm.trans (released t (Nat.le_refl t))
    split at now
    next found =>
      obtain ⟨c, out, stands⟩ := List.mem_map.mp found
      exact ⟨c, (holds_iff held c).mpr (Hold.isHeld_of_mem_expire out), stands⟩
    next => cases pressed.symm.trans now

/-- After a reload that loads nothing no expiry releases any key. -/
theorem keyState_expire_of_reloadsNothing {b : Bench} {h : Hold} (held : b.hold = some h)
    {s : Step} (reloads : b.ReloadsNothing s) (now : Nat) (k : Key) :
    ((b.perform s).2.perform (.request (.expire now))).2.keyState k = b.keyState k := by
  rw [bench_of_reloadsNothing held reloads]
  obtain ⟨_, _, keys⟩ := expire_keys (b := { b with hold := some h.clear }) rfl now
  exact (keys k).trans (if_neg (by simp [Hold.expire, Hold.clear]))

/-- No key is ever stuck exactly where no step strands one, and a key that is not
stuck is released by every expiry that comes late enough. -/
theorem no_key_stuck_iff_never_stranded (w : Bench) (seed : UInt64) (layout : Layout)
    (duration : Nat) {steps : List Step} (typing : ∀ s ∈ steps, s.isTypingOrFiling = true) :
    let b := w.switchedOn seed layout duration
    (Throughout NoStuckKey b steps ↔ Never Strands b steps) ∧
      Throughout (fun b => b.NoStuckKey ↔
        ∀ k, b.keyState k = .pressed →
          ∃ t, ∀ now, t ≤ now →
            (b.perform (.request (.expire now))).2.keyState k = .released) b steps := by
  intro b
  have keeps : ∀ b : Bench, ∀ s ∈ steps, (∃ h, b.hold = some h) →
      ∃ h, (b.perform s).2.hold = some h :=
    fun b s here => isSome_hold_perform (typing s here)
  have fresh : b.NoStuckKey := by
    intro k pressed
    cases (w.keyState_switchedOn seed layout duration k).symm.trans pressed
  constructor
  · exact throughout_iff_never keeps
      (fun b s here hold inv => noStuckKey_perform (typing s here) hold inv) ⟨_, rfl⟩ fresh
  · intro before initial
    have hold : ∃ h, (b.after before).hold = some h :=
      after_preserves (P := fun b => ∃ h, b.hold = some h)
        (fun b s here => keeps b s (initial.subset here)) ⟨_, rfl⟩
    exact noStuckKey_iff_released_later hold

/-- A character is typed and runs out. -/
theorem no_key_stuck_iff_never_stranded_of_tap :
    let b := (default : Bench).switchedOn 42 .conventional 1000
    let steps : List Step :=
      [.request (.keyboard { code := .char 'w' } 0), .request (.expire 1000)]
    (∀ s ∈ steps, s.isTypingOrFiling = true) ∧ Throughout NoStuckKey b steps := by
  intro b steps
  have typing : ∀ s ∈ steps, s.isTypingOrFiling = true := by
    simp [steps, Step.isTypingOrFiling, Step.isTyping]
  refine ⟨typing, (no_key_stuck_iff_never_stranded default 42 .conventional 1000 typing).1.mpr ?_⟩
  rintro before s rest split ⟨⟨e, now, same, asks, _⟩, _⟩
  have here : s ∈ steps := by simp [split]
  subst same
  simp only [steps, List.mem_cons, Step.request.injEq, Request.keyboard.injEq, reduceCtorEq,
    List.not_mem_nil, or_false] at here
  obtain ⟨rfl, _⟩ := here
  cases asks.1

/-- The key of w is pressed when F5 forgets that w is held, and no expiry ever
releases it. -/
theorem key_stuck_after_reload_of_nothing :
    let steps : List Step :=
      [.request (.keyboard { code := .char 'w' } 0),
        .request (.keyboard { code := .function 5 } 1000)]
    let b := ((default : Bench).switchedOn 42 .conventional 100000).after steps
    (∀ s ∈ steps, s.isTypingOrFiling = true) ∧ ¬ b.NoStuckKey ∧
      ∀ now, (b.perform (.request (.expire now))).2.keyState ⟨5⟩ = .pressed := by
  intro steps b
  let typed := ((default : Bench).switchedOn 42 .conventional 100000).after
    [.request (.keyboard { code := .char 'w' } 0)]
  have hold : typed.hold = some (Hold.press { duration := 100000 } 'w' 0).2 := rfl
  have pressed : typed.keyState ⟨5⟩ = .pressed := by rfl
  have nowhere : typed.host.programPath = none := by rfl
  have reloads : typed.ReloadsNothing (.request (.keyboard { code := .function 5 } 1000)) := by
    refine ⟨_, _, rfl, ⟨rfl, rfl⟩, ?_⟩
    rw [Host.value_reload_none _ _ nowhere]
    simp
  refine ⟨?_, ?_, fun now => ?_⟩
  · simp [steps, Step.isTypingOrFiling, Step.isTyping]
  · exact not_noStuckKey_of_strands hold ⟨reloads, _, pressed⟩
  · exact (keyState_expire_of_reloadsNothing hold reloads now ⟨5⟩).trans pressed

/-- Every held character always has its key pressed exactly where no step cuts a
hold short. -/
theorem held_keys_pressed_iff_never_cut_short (w : Bench) (seed : UInt64) (layout : Layout)
    (duration : Nat) {steps : List Step} (typing : ∀ s ∈ steps, s.isTyping = true) :
    let b := w.switchedOn seed layout duration
    Throughout HeldKeysPressed b steps ↔ Never CutsShort b steps := by
  intro b
  have keeps : ∀ b : Bench, ∀ s ∈ steps, (∃ h, b.hold = some h) →
      ∃ h, (b.perform s).2.hold = some h :=
    fun b s here => isSome_hold_perform (Step.isTypingOrFiling_of_isTyping (typing s here))
  have fresh : b.HeldKeysPressed := by
    intro c k holds _
    exact absurd holds (w.not_holds_switchedOn seed layout duration c)
  exact throughout_iff_never keeps
    (fun b s here hold inv => heldKeysPressed_perform (typing s here) hold inv) ⟨_, rfl⟩ fresh

/-- Two characters with keys of their own are held, and the first one runs out. -/
theorem held_keys_pressed_iff_never_cut_short_of_two_keys :
    let b := (default : Bench).switchedOn 42 .conventional 1000
    let steps : List Step :=
      [.request (.keyboard { code := .char 'w' } 0),
        .request (.keyboard { code := .char 's' } 500), .request (.expire 1000)]
    (∀ s ∈ steps, s.isTyping = true) ∧ Throughout HeldKeysPressed b steps := by
  intro b steps
  have typing : ∀ s ∈ steps, s.isTyping = true := by simp [steps, Step.isTyping]
  refine ⟨typing, (held_keys_pressed_iff_never_cut_short default 42 .conventional 1000 typing).mpr ?_⟩
  refine never_cons.mpr ⟨?_, never_cons.mpr ⟨?_, never_cons.mpr ⟨?_, never_nil⟩⟩⟩
  · rintro ⟨h, now, _, same, _⟩
    cases same
  · rintro ⟨h, now, _, same, _⟩
    cases same
  · rintro ⟨h, now, held, same, c, out, d, k, still, cKey, dKey⟩
    cases same
    have both : h = ((Hold.press { duration := 1000 } 'w' 0).2.press 's' 500).2 :=
      (Option.some.inj held).symm
    subst both
    have first : c = 'w' := by
      simpa [Hold.expire, Hold.hasExpired, Hold.press] using out
    have second : d = 's' := by
      simpa [Hold.expire, Hold.hasExpired, Hold.press, Hold.isHeld, Hold.since?] using still
    subst first second
    have five : some (Key.mk 5) = some k := cKey
    have eight : some (Key.mk 8) = some k := dKey
    cases five.trans eight.symm

/-- The key of w and W is released when w runs out, although W is still held. -/
theorem key_of_held_character_released :
    let steps : List Step :=
      [.request (.keyboard { code := .char 'w' } 0),
        .request (.keyboard { code := .char 'W' } 50000), .request (.expire 100000)]
    let b := ((default : Bench).switchedOn 42 .conventional 100000).after steps
    (∀ s ∈ steps, s.isTyping = true) ∧ ¬ b.HeldKeysPressed := by
  intro steps b
  let typed := ((default : Bench).switchedOn 42 .conventional 100000).after
    [.request (.keyboard { code := .char 'w' } 0),
      .request (.keyboard { code := .char 'W' } 50000)]
  have hold : typed.hold =
      some ((Hold.press { duration := 100000 } 'w' 0).2.press 'W' 50000).2 := rfl
  have layout : typed.host.layout = .conventional := rfl
  have lower : typed.key? 'w' = some ⟨5⟩ := by
    rw [key?, layout]
    rfl
  have upper : typed.key? 'W' = some ⟨5⟩ := by
    rw [key?, layout]
    rfl
  have short : typed.CutsShort (.request (.expire 100000)) := by
    refine ⟨_, 100000, hold, rfl, 'w', ?_, 'W', ⟨5⟩, rfl, lower, upper⟩
    exact Hold.mem_expire_of_since? (t := 0) rfl rfl
  refine ⟨?_, ?_⟩
  · simp [steps, Step.isTyping]
  · exact not_heldKeysPressed_of_cutsShort short

end Bench

end VipHost
