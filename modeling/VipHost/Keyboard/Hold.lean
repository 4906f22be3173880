import VipHost.Keypad.Key

/-!
# Held keys

Many terminals report presses and repeats of a key but no release.  There a key
counts as held until for some time no press or repeat of it has come; then its
release is made up.  A `Hold` has for every held character the instant of its
latest press or repeat.  Instants are microseconds and may come out of order.
-/

namespace VipHost

/-- The held characters. -/
structure Hold where
  /-- How long a character is held after its latest press, in microseconds. -/
  duration : Nat
  /-- The held characters with their latest instants. -/
  held : List (Char × Nat) := []
  /-- A character is held once. -/
  nodup_held : (held.map (·.1)).Nodup := by simp
deriving DecidableEq

instance : Inhabited Hold := ⟨{ duration := 0 }⟩

namespace Hold

/-- The instant of the latest press of a held character. -/
def since? (h : Hold) (c : Char) : Option Nat := h.held.lookup c

/-- Whether a character is held. -/
def isHeld (h : Hold) (c : Char) : Bool := (h.since? c).isSome

/-- Note a press or repeat; whether the character was not held before. -/
def press (h : Hold) (c : Char) (now : Nat) : Bool × Hold :=
  (!h.isHeld c,
    { duration := h.duration
      held := (c, now) :: h.held.filter (·.1 ≠ c)
      nodup_held := by
        refine List.nodup_cons.mpr ⟨fun hc => ?_, h.nodup_held.sublist (.map _ List.filter_sublist)⟩
        obtain ⟨p, hp, rfl⟩ := List.mem_map.mp hc
        simpa using (List.mem_filter.mp hp).2 })

/-- Whether the hold of a character has run out.  An instant before its latest
press counts as the instant of that press. -/
def hasExpired (h : Hold) (now since : Nat) : Bool := h.duration ≤ now - since

/-- The characters whose hold ran out, in order, and the hold without them. -/
def expire (h : Hold) (now : Nat) : List Char × Hold :=
  let out := h.held.filter fun (_, since) => h.hasExpired now since
  ((out.map (·.1)).mergeSort (fun a b => a.toNat ≤ b.toNat),
    { duration := h.duration
      held := h.held.filter fun (_, since) => !h.hasExpired now since
      nodup_held := h.nodup_held.sublist (.map _ List.filter_sublist) })

/-- Forget every held character without a release. -/
def clear (h : Hold) : Hold := { duration := h.duration }

theorem lookup_filter_ne {c d : Char} (l : List (Char × Nat)) :
    (l.filter (·.1 ≠ c)).lookup d = if d = c then none else l.lookup d := by
  induction l with
  | nil => simp
  | cons p l ih =>
    obtain ⟨a, t⟩ := p
    by_cases ha : a = c
    · subst ha
      by_cases hd : d = a
      · simpa [hd] using ih
      · have : (d == a) = false := by simpa using hd
        simpa [hd, List.lookup_cons, this] using ih
    · by_cases hd : d = a
      · subst hd
        simp [ha]
      · have : (d == a) = false := by simpa using hd
        simpa [ha, List.lookup_cons, this] using ih

theorem since?_press (h : Hold) (c d : Char) (now : Nat) :
    (h.press c now).2.since? d = if d = c then some now else h.since? d := by
  by_cases hd : d = c
  · simp [press, since?, hd]
  · have hb : (d == c) = false := by simpa using hd
    have hl := lookup_filter_ne (c := c) (d := d) h.held
    simp only [hd, if_false] at hl
    simp only [press, since?, List.lookup_cons, hb, hl, hd, if_false]

theorem since?_clear (h : Hold) (c : Char) : h.clear.since? c = none := rfl

theorem lookup_filter_snd {l : List (Char × Nat)} (hl : (l.map (·.1)).Nodup) (p : Nat → Bool)
    (c : Char) : (l.filter fun q => p q.2).lookup c = (l.lookup c).filter p := by
  induction l with
  | nil => rfl
  | cons q l ih =>
    obtain ⟨a, t⟩ := q
    obtain ⟨ha, hl⟩ := List.nodup_cons.mp hl
    by_cases hc : c = a
    · subst hc
      have hn : (l.filter fun q => p q.2).lookup c = none :=
        List.lookup_eq_none_iff.mpr fun q hq => by
          have hm : q.1 ∈ l.map (·.1) := List.mem_map.mpr ⟨q, (List.mem_filter.mp hq).1, rfl⟩
          exact bne_iff_ne.mpr fun e => ha (e ▸ hm)
      by_cases hp : p t = true <;> simp [hp, hn, Option.filter]
    · have hb : (c == a) = false := beq_eq_false_iff_ne.mpr hc
      by_cases hp : p t = true <;> simp [hp, List.lookup_cons, hb, ih hl]

/-- What is held after the others ran out. -/
theorem since?_expire (h : Hold) (c : Char) (now : Nat) :
    (h.expire now).2.since? c = (h.since? c).filter fun since => !h.hasExpired now since :=
  lookup_filter_snd h.nodup_held (fun since => !h.hasExpired now since) c

/-- The characters released are those whose hold ran out. -/
theorem mem_expire (h : Hold) (c : Char) (now : Nat) :
    c ∈ (h.expire now).1 ↔ ∃ since, (c, since) ∈ h.held ∧ h.hasExpired now since = true := by
  simp [expire]

end Hold

end VipHost
