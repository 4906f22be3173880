import Mathlib.Data.Char
import VipHost.Proofs.HeldKeys

/-!
# The key events of a hold

A hold takes keyboard events and expiries, and from each some host events come of it
(`Hold.take`).  A character is left pressed or released by the events so far: its own key events
say which, and a reset or a reload releases it (`HostEvent.leaves`).

A hold *has* the character pressed if it is held (`Hold.state`).  Each step leaves every character
in the state in which the hold then has it, and emits a key event of a character only to change
its state (`Hold.alternate_take`).  So over any run the key events of each character alternate.
The instant that the hold has for a held character is that of the last event that typed it
(`Hold.since?_take`), which need not be the largest, since instants may come in any order.
-/

namespace VipHost

/-! ## Typing a character -/

namespace KeyCode

/-- Commands are no key events. -/
theorem command?_ne_key {code : KeyCode} {asked : HostEvent} (has : code.command? = some asked)
    (c : Char) (state : KeyState) : asked ≠ .key c state := by
  rintro rfl
  unfold command? at has
  split at has <;> cases has

end KeyCode

namespace KeyEvent

/-- Typing a character renews it in the hold, and says so if it is new there. -/
theorem value_meaning_typed {e : KeyEvent} {c : Char} (types : e.typed? = some c) (h : Hold)
    (now : Nat) :
    (e.meaning (some h) now).value =
      (if h.isHeld c then none else some (.key c .pressed), some (h.press c now).2) := by
  rw [(e.comesTo (some h) now).eq_of_typed types, charMeaning_some]

/-- Any other event emits no key event, and clears the hold if it clears the keypad. -/
theorem value_meaning_untyped {e : KeyEvent} (spares : e.typed? = none) (h : Hold) (now : Nat) :
    ∃ asked, (e.meaning (some h) now).value =
        (asked, some (if asked.any HostEvent.clearsKeypad then h.clear else h)) ∧
      ∀ c state, asked ≠ some (.key c state) := by
  have came := e.comesTo (some h) now
  generalize (e.meaning (some h) now).value = m at came ⊢
  cases came with
  | release => exact ⟨none, by rw [releaseMeaning_some]; rfl, nofun⟩
  | quit => exact ⟨some .quit, rfl, nofun⟩
  | @command command _ _ has =>
    refine ⟨some command, ?_, fun c state same => ?_⟩
    · rw [Option.any_some, Option.map_some, apply_ite some]
    · exact KeyCode.command?_ne_key has c state (Option.some.inj same)
  | character types => cases spares.symm.trans types
  | nothing => exact ⟨none, rfl, nofun⟩

end KeyEvent

/-! ## Runs of a hold -/

/-- The state an event leaves a character in. -/
def HostEvent.leaves (c : Char) (state : KeyState) : HostEvent → KeyState
  | .key d new => if d = c then new else state
  | .reset => .released
  | .reload => .released
  | _ => state

/-- The key events of a character alternate, from a state of it on: each changes the state. -/
def Alternate (c : Char) : KeyState → List HostEvent → Prop
  | _, [] => True
  | state, e :: es => e ≠ .key c state ∧ Alternate c (e.leaves c state) es

theorem alternate_append {c : Char} {state : KeyState} (es es' : List HostEvent) :
    Alternate c state (es ++ es') ↔
      Alternate c state es ∧ Alternate c (es.foldl (HostEvent.leaves c) state) es' := by
  induction es generalizing state with
  | nil => simp [Alternate]
  | cons e es ih => simp only [List.cons_append, Alternate, ih, List.foldl_cons, and_assoc]

/-- Releases of different characters, each of which is pressed. -/
theorem alternate_releases {c : Char} {state : KeyState} {cs : List Char} (once : cs.Nodup)
    (pressed : c ∈ cs → state = .pressed) :
    Alternate c state (cs.map (.key · .released)) ∧
      (cs.map (.key · .released)).foldl (HostEvent.leaves c) state =
        if c ∈ cs then .released else state := by
  induction cs generalizing state with
  | nil => simp [Alternate]
  | cons d cs ih =>
    obtain ⟨notAgain, once⟩ := List.nodup_cons.mp once
    rw [List.map_cons, Alternate, List.foldl_cons]
    by_cases same : d = c
    · subst same
      have was := pressed (List.mem_cons_self ..)
      subst was
      obtain ⟨rest, left⟩ := @ih .released once fun again => absurd again notAgain
      refine ⟨⟨nofun, ?_⟩, ?_⟩
      · simpa [HostEvent.leaves] using rest
      · simpa [HostEvent.leaves] using left
    · obtain ⟨rest, left⟩ := ih once fun inside => pressed (List.mem_cons_of_mem d inside)
      have other : HostEvent.key d .released ≠ .key c state := by
        rintro ⟨⟩
        exact same rfl
      have unmoved : HostEvent.leaves c state (.key d .released) = state := if_neg same
      rw [unmoved]
      refine ⟨⟨other, rest⟩, left.trans ?_⟩
      simp [Ne.symm same]

namespace Hold

/-- A hold that holds nothing yet. -/
def fresh (duration : Nat) : Hold := { duration, nodup_held := Bench.nodup_held_nil }

/-- What a hold takes. -/
inductive Input where
  /-- A keyboard event at an instant. -/
  | event (e : KeyEvent) (now : Nat)
  /-- Let characters run out. -/
  | expire (now : Nat)

/-- The instant at which an input types a character. -/
def Input.types? (c : Char) : Input → Option Nat
  | .event e now => if e.typed? = some c then some now else none
  | .expire _ => none

/-- The host events that come of an input, and the hold after it. -/
def take (h : Hold) : Input → List HostEvent × Hold
  | .event e now =>
    let meaning := (e.meaning (some h) now).value
    (meaning.1.toList, meaning.2.getD h)
  | .expire now => ((h.expire now).1.map (.key · .released), (h.expire now).2)

/-- The hold after some inputs. -/
def after : Hold → List Input → Hold
  | h, [] => h
  | h, i :: inputs => (h.take i).2.after inputs

/-- The host events that come of some inputs. -/
def emitted : Hold → List Input → List HostEvent
  | _, [] => []
  | h, i :: inputs => (h.take i).1 ++ (h.take i).2.emitted inputs

/-- The instant at which a character was last typed. -/
def lastTyped? (c : Char) (inputs : List Input) : Option Nat :=
  (inputs.filterMap (Input.types? c)).getLast?

/-- The state a hold has a character in. -/
def state (h : Hold) (c : Char) : KeyState := if h.isHeld c then .pressed else .released

theorem state_eq_pressed {h : Hold} {c : Char} : h.state c = .pressed ↔ h.isHeld c = true := by
  simp [state]

theorem not_isHeld_fresh (duration : Nat) (c : Char) : ¬ (fresh duration).isHeld c = true :=
  (fresh duration).not_isHeld_clear c

theorem state_fresh (duration : Nat) (c : Char) : (fresh duration).state c = .released :=
  if_neg (not_isHeld_fresh duration c)

theorem state_clear (h : Hold) (c : Char) : h.clear.state c = .released :=
  if_neg (h.not_isHeld_clear c)

theorem state_press (h : Hold) (c d : Char) (now : Nat) :
    (h.press c now).2.state d = if c = d then .pressed else h.state d := by
  simp only [state, isHeld_press]
  by_cases same : c = d
  · simp [same]
  · simp [same, Ne.symm same]

theorem mem_expire_iff_since? (h : Hold) (c : Char) (now : Nat) :
    c ∈ (h.expire now).1 ↔
      ∃ since, h.since? c = some since ∧ h.hasExpired now since = true := by
  constructor
  · intro out
    obtain ⟨since, here, ended⟩ := (h.mem_expire c now).mp out
    have found : (h.since? c).filter (h.hasExpired now) ≠ none := by
      rw [since?, ← lookup_filter_snd h.nodup_held, ne_eq, List.lookup_eq_none_iff]
      intro absent
      have other := absent (c, since) (List.mem_filter.mpr ⟨here, ended⟩)
      simp at other
    obtain ⟨since, found⟩ := Option.ne_none_iff_exists'.mp found
    exact ⟨since, Option.filter_eq_some_iff.mp found⟩
  · rintro ⟨since, held, ended⟩
    exact mem_expire_of_since? held ended

/-- What runs out is forgotten, and the rest is as it was. -/
theorem since?_expire_eq (h : Hold) (c : Char) (now : Nat) :
    (h.expire now).2.since? c = if c ∈ (h.expire now).1 then none else h.since? c := by
  rw [since?_expire]
  cases held : h.since? c with
  | none => simp
  | some since =>
    have out : c ∈ (h.expire now).1 ↔ h.hasExpired now since = true := by
      simp [mem_expire_iff_since?, held]
    simp only [out, Option.filter_some, Bool.not_eq_true']
    cases h.hasExpired now since with
    | true => rfl
    | false => rfl

theorem state_expire (h : Hold) (c : Char) (now : Nat) :
    (h.expire now).2.state c = if c ∈ (h.expire now).1 then .released else h.state c := by
  rw [state, isHeld, since?_expire_eq]
  split
  · rfl
  · rfl

/-- The characters that run out are in order, each of them once. -/
theorem strict_expire (h : Hold) (now : Nat) : (h.expire now).1.Pairwise (· < ·) := by
  have once : (h.expire now).1.Nodup := by
    have kept := h.nodup_held.sublist
      (.map _ (List.filter_sublist (p := fun q => h.hasExpired now q.2)))
    exact (List.mergeSort_perm _ _).nodup_iff.mpr kept
  have ordered : (h.expire now).1.Pairwise (fun a b => decide (a.toNat ≤ b.toNat) = true) := by
    apply List.pairwise_mergeSort
    · intro a b c
      simpa using Nat.le_trans
    · intro a b
      simpa using Nat.le_total a.toNat b.toNat
  refine (ordered.and once).imp fun {a b} both => ?_
  obtain ⟨notMore, different⟩ := both
  rw [decide_eq_true_eq] at notMore
  exact lt_of_le_of_ne notMore different

/-! ## Steps -/

/-- An input that types a character. -/
theorem take_typed {e : KeyEvent} {c : Char} (types : e.typed? = some c) (h : Hold) (now : Nat) :
    h.take (.event e now) =
      (if h.isHeld c then [] else [.key c .pressed], (h.press c now).2) := by
  rw [take, KeyEvent.value_meaning_typed types]
  split
  · rfl
  · rfl

/-- The key events of an input change the states of characters, to those which the hold then has
them in. -/
theorem alternate_take (h : Hold) (i : Input) (c : Char) :
    Alternate c (h.state c) (h.take i).1 ∧
      (h.take i).1.foldl (HostEvent.leaves c) (h.state c) = (h.take i).2.state c := by
  cases i with
  | expire now =>
    have once : (h.expire now).1.Nodup := (h.strict_expire now).imp (fun less => ne_of_lt less)
    have pressed : c ∈ (h.expire now).1 → h.state c = .pressed := fun out =>
      state_eq_pressed.mpr (isHeld_of_mem_expire out)
    obtain ⟨alternate, left⟩ := alternate_releases once pressed
    exact ⟨alternate, left.trans (h.state_expire c now).symm⟩
  | event e now =>
    cases types : e.typed? with
    | some d =>
      rw [take_typed types, state_press]
      cases held : h.isHeld d with
      | true =>
        refine ⟨trivial, ?_⟩
        by_cases same : d = c
        · subst same
          simp [state, held]
        · simp [same]
      | false =>
        by_cases same : d = c
        · subst same
          simp [Alternate, HostEvent.leaves, state, held]
        · simp [Alternate, HostEvent.leaves, same]
    | none =>
      obtain ⟨asked, value, noKey⟩ := KeyEvent.value_meaning_untyped types h now
      rw [take, value]
      cases asked with
      | none => exact ⟨trivial, rfl⟩
      | some asked =>
        cases asked with
        | key d new => exact absurd rfl (noKey d new)
        | reset => exact ⟨⟨nofun, trivial⟩, (h.state_clear c).symm⟩
        | reload => exact ⟨⟨nofun, trivial⟩, (h.state_clear c).symm⟩
        | start => exact ⟨⟨nofun, trivial⟩, rfl⟩
        | dumpRegisters => exact ⟨⟨nofun, trivial⟩, rfl⟩
        | quit => exact ⟨⟨nofun, trivial⟩, rfl⟩

theorem duration_take (h : Hold) (i : Input) : (h.take i).2.duration = h.duration := by
  cases i with
  | expire now => rfl
  | event e now =>
    cases types : e.typed? with
    | some d =>
      rw [take_typed types]
      rfl
    | none =>
      obtain ⟨asked, value, _⟩ := KeyEvent.value_meaning_untyped types h now
      rw [take, value]
      dsimp only [Option.getD_some]
      split
      · rfl
      · rfl

/-- A character held after an input was typed by it, or was held before since the same instant. -/
theorem since?_take {h : Hold} {i : Input} {c : Char} (held : (h.take i).2.isHeld c = true) :
    (h.take i).2.since? c = (i.types? c).or (h.since? c) := by
  cases i with
  | expire now =>
    change (h.expire now).2.isHeld c = true at held
    show (h.expire now).2.since? c = h.since? c
    rw [isHeld, since?_expire_eq] at held
    rw [since?_expire_eq, if_neg]
    intro out
    rw [if_pos out] at held
    cases held
  | event e now =>
    rw [Input.types?]
    cases types : e.typed? with
    | some d =>
      rw [take_typed types, since?_press]
      by_cases same : c = d
      · simp [same]
      · simp [same, Ne.symm same]
    | none =>
      obtain ⟨asked, value, _⟩ := KeyEvent.value_meaning_untyped types h now
      rw [take, value] at held ⊢
      simp only [Option.getD_some] at held ⊢
      split at held
      · exact absurd held (h.not_isHeld_clear c)
      next kept =>
        rw [if_neg kept]
        rfl

/-! ## Runs -/

/-- Over a run the key events of a character alternate, and the last of them tells whether the
character is held. -/
theorem alternate_emitted (h : Hold) (inputs : List Input) (c : Char) :
    Alternate c (h.state c) (h.emitted inputs) ∧
      (h.emitted inputs).foldl (HostEvent.leaves c) (h.state c) = (h.after inputs).state c := by
  induction inputs generalizing h with
  | nil => exact ⟨trivial, rfl⟩
  | cons i inputs ih =>
    obtain ⟨first, left⟩ := h.alternate_take i c
    obtain ⟨rest, last⟩ := ih (h.take i).2
    rw [emitted, alternate_append, List.foldl_append, left]
    exact ⟨⟨first, rest⟩, last⟩

theorem duration_after (h : Hold) (inputs : List Input) :
    (h.after inputs).duration = h.duration := by
  induction inputs generalizing h with
  | nil => rfl
  | cons i inputs ih => exact (ih (h.take i).2).trans (h.duration_take i)

theorem lastTyped?_cons (c : Char) (i : Input) (inputs : List Input) :
    lastTyped? c (i :: inputs) = (lastTyped? c inputs).or (i.types? c) := by
  rw [lastTyped?, lastTyped?]
  cases types : i.types? c with
  | none => rw [List.filterMap_cons_none types, Option.or_none]
  | some now =>
    rw [List.filterMap_cons_some types, List.getLast?_cons]
    cases (inputs.filterMap (Input.types? c)).getLast? with
    | none => rfl
    | some later => rfl

/-- A character held after a run was last typed at the instant the hold has for it, or was held
before and not typed. -/
theorem since?_after {h : Hold} {inputs : List Input} {c : Char}
    (held : (h.after inputs).isHeld c = true) :
    (h.after inputs).since? c = (lastTyped? c inputs).or (h.since? c) := by
  induction inputs generalizing h with
  | nil => rfl
  | cons i inputs ih =>
    rw [after] at held ⊢
    rw [ih held, lastTyped?_cons, Option.or_assoc]
    cases typed : lastTyped? c inputs with
    | some now => rfl
    | none =>
      have before : (h.take i).2.isHeld c = true := by
        rw [isHeld, ih held, typed, Option.none_or] at held
        exact held
      rw [Option.none_or, Option.none_or, since?_take before]

/-- Over any run of a hold the key events of each character alternate, the first one a press, and
start afresh at a reset or reload; keyboard events only press, and a character is held while its
last event was a press.  An expiry releases the held characters that were last typed the
duration or longer ago, in order and once each, and keeps the others as they are.  Typing a held
character emits nothing and sets its instant. -/
theorem key_events_alternate_and_run_out_in_time (duration : Nat) (inputs : List Input) :
    let h := (fresh duration).after inputs
    let es := (fresh duration).emitted inputs
    (∀ c, Alternate c .released es ∧
      (h.isHeld c = true ↔ es.foldl (HostEvent.leaves c) .released = .pressed)) ∧
    (∀ (e : KeyEvent) (now : Nat),
      (∀ c, (e.meaning (some h) now).value.1 ≠ some (.key c .released)) ∧
      ∀ c, e.typed? = some c → h.isHeld c = true →
        ∃ h', (e.meaning (some h) now).value = (none, some h') ∧ h'.duration = h.duration ∧
          ∀ d, h'.since? d = if d = c then some now else h.since? d) ∧
    ∀ now : Nat,
      (h.expire now).1.Pairwise (· < ·) ∧
      (∀ c, c ∈ (h.expire now).1 ↔ h.isHeld c = true ∧
        ∃ since, lastTyped? c inputs = some since ∧ duration ≤ now - since) ∧
      ∀ c, (h.expire now).2.since? c = if c ∈ (h.expire now).1 then none else h.since? c := by
  intro h es
  have same : h.duration = duration := duration_after _ inputs
  refine ⟨fun c => ?_, fun e now => ⟨fun c => ?_, fun c types held => ?_⟩,
    fun now => ⟨h.strict_expire now, fun c => ?_, fun c => h.since?_expire_eq c now⟩⟩
  · obtain ⟨alternate, left⟩ := (fresh duration).alternate_emitted inputs c
    rw [state_fresh] at alternate left
    exact ⟨alternate, by rw [left, state_eq_pressed]⟩
  · cases types : e.typed? with
    | some d =>
      rw [KeyEvent.value_meaning_typed types]
      split
      · nofun
      · nofun
    | none =>
      obtain ⟨asked, value, noKey⟩ := KeyEvent.value_meaning_untyped types h now
      rw [value]
      exact noKey c .released
  · refine ⟨(h.press c now).2, ?_, rfl, fun d => h.since?_press c d now⟩
    rw [KeyEvent.value_meaning_typed types, if_pos held]
  · rw [mem_expire_iff_since?]
    have typed : h.isHeld c = true → h.since? c = lastTyped? c inputs := by
      intro held
      exact (since?_after held).trans (Option.or_none ..)
    constructor
    · rintro ⟨since, since?, ended⟩
      have held : h.isHeld c = true := Option.isSome_iff_exists.mpr ⟨since, since?⟩
      refine ⟨held, since, (typed held).symm.trans since?, ?_⟩
      simpa [hasExpired, same] using ended
    · rintro ⟨held, since, last, ended⟩
      refine ⟨since, (typed held).trans last, ?_⟩
      simpa [hasExpired, same] using ended

/-- A repeat of w with an earlier instant than its press: it is the repeat that counts.  Then s,
typed at the instant of that press, is not over when w is, and typing it once more emits nothing. -/
theorem key_events_alternate_and_run_out_in_time_of_late_repeat :
    let w : KeyEvent := { code := .char 'w', action := .repeated }
    let s : KeyEvent := { code := .char 's' }
    let inputs : List Input :=
      [.event { w with action := .press } 500, .event w 100, .event s 500]
    let h := (fresh 1000).after inputs
    'w' ∈ (h.expire 1200).1 ∧ 's' ∉ (h.expire 1200).1 ∧
      s.typed? = some 's' ∧ h.isHeld 's' = true ∧ (s.meaning (some h) 50).value.1 = none := by
  intro w s inputs h
  obtain ⟨_, typing, expiry⟩ := key_events_alternate_and_run_out_in_time 1000 inputs
  obtain ⟨_, out, _⟩ := expiry 1200
  have types : s.typed? = some 's' := rfl
  have held : h.isHeld 's' = true := by rfl
  obtain ⟨h', value, _⟩ := (typing s 50).2 's' types held
  refine ⟨(out 'w').mpr ⟨rfl, 100, rfl, by decide⟩, fun outAlso => ?_, types, held,
    congrArg Prod.fst value⟩
  obtain ⟨_, since, last, ended⟩ := (out 's').mp outAlso
  have typedAt : lastTyped? 's' inputs = some 500 := rfl
  cases typedAt.symm.trans last
  exact absurd ended (by decide)

end Hold

end VipHost
