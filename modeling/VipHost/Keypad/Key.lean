/-!
# The hexadecimal keypad

Sixteen keys, named by the digit on them.  A keypad remembers for each key
whether it is pressed; the last word about a key is the one that counts
(`Keypad.get_set`).
-/

namespace VipHost

/-- A key of the keypad, named by its digit. -/
structure Key where
  /-- The digit on the key. -/
  digit : Fin 16
deriving DecidableEq, Repr, Inhabited

/-- What a key does. -/
inductive KeyState where
  | pressed
  | released
deriving DecidableEq, Repr, Inhabited

namespace Key

/-- The digit as a character. -/
def face (k : Key) : Char :=
  if k.digit.val < 10 then Char.ofNat ('0'.toNat + k.digit.val)
  else Char.ofNat ('A'.toNat + (k.digit.val - 10))

/-- The name of a key, such as `KeyA`. -/
def name (k : Key) : String := "Key" ++ String.singleton k.face

/-- The key with a number, if there is one. -/
def ofByte? (b : UInt8) : Option Key :=
  if h : b.toNat < 16 then some ⟨⟨b.toNat, h⟩⟩ else none

/-- The number of a key. -/
def toByte (k : Key) : UInt8 := UInt8.ofNat k.digit.val

/-- All keys, by number. -/
def all : List Key := (List.finRange 16).map Key.mk

theorem mem_all (k : Key) : k ∈ all := by
  simp [all, List.mem_finRange]

theorem ofByte?_toByte (k : Key) : ofByte? k.toByte = some k := by
  obtain ⟨i, hi⟩ := k
  have h : (UInt8.ofNat i).toNat = i := by
    rw [UInt8.toNat_ofNat']
    exact Nat.mod_eq_of_lt (by omega)
  simp [ofByte?, toByte, h, hi]

end Key

/-- The name of a state. -/
def KeyState.name : KeyState → String
  | .pressed => "Pressed"
  | .released => "Released"

/-- The state of every key. -/
structure Keypad where
  /-- The states, by number. -/
  states : Vector KeyState 16
deriving DecidableEq, Repr

namespace Keypad

/-- No key is pressed. -/
def allReleased : Keypad := ⟨Vector.replicate 16 .released⟩

instance : Inhabited Keypad := ⟨allReleased⟩

/-- The state of a key. -/
def get (p : Keypad) (k : Key) : KeyState := p.states[k.digit]

/-- The keypad after an event on a key. -/
def set (p : Keypad) (k : Key) (s : KeyState) : Keypad := ⟨p.states.set k.digit s⟩

theorem get_allReleased (k : Key) : allReleased.get k = .released := by
  simp [get, allReleased]

theorem get_set (p : Keypad) (k k' : Key) (s : KeyState) :
    (p.set k s).get k' = if k = k' then s else p.get k' := by
  obtain ⟨i⟩ := k
  obtain ⟨j⟩ := k'
  simp only [get, set, Key.mk.injEq, Fin.getElem_fin]
  by_cases h : i = j
  · simp [h]
  · have : i.val ≠ j.val := fun e => h (Fin.ext e)
    simp [h, this]

end Keypad

end VipHost
