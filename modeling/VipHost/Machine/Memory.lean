/-!
# The memory map

4096 bytes of memory, divided as on the COSMAC VIP:

    0x000 - 0x1ff  interpreter, with the font at 0x050
    0x200 - 0xe9f  program
    0xea0 - 0xecf  stack
    0xed0 - 0xeef  work area
    0xef0 - 0xeff  variables
    0xf00 - 0xfff  display page

A range is given by its start and its length, and is *inside* when it ends at
or below 4096; an empty range may start at 4096.  Every operation on a range
outside is refused and leaves the memory alone.  All changes go through
`overwrite`, so `get_overwrite` is the one fact about what a change does.
-/

namespace VipHost

/-- Bytes in a row. -/
abbrev Bytes := Array UInt8

/-- A program that does not fit. -/
structure OversizedProgram where
  /-- How many bytes it has. -/
  size : Nat
  /-- How many bytes there is room for. -/
  capacity : Nat
deriving DecidableEq, Repr

/-- What is said about a program that does not fit. -/
def OversizedProgram.message (e : OversizedProgram) : String :=
  "program is " ++ toString e.size ++ " bytes but program memory holds " ++ toString e.capacity

/-- The memory of the machine. -/
structure Memory where
  /-- The bytes, by address. -/
  bytes : Vector UInt8 4096
deriving DecidableEq

namespace Memory

/-! ## Addresses -/

/-- How many bytes there are. -/
def size : Nat := 4096

/-- Where programs are loaded. -/
def programStart : Nat := 0x200

/-- How many bytes of program there is room for. -/
def programCapacity : Nat := 0xca0

/-- The first address above the program. -/
def systemStart : Nat := programStart + programCapacity

/-- The first free place of the stack, which grows downward. -/
def stackStart : Nat := 0xecf

/-- Where the work area starts. -/
def workStart : Nat := 0xed0

/-- Where the variables start. -/
def variablesStart : Nat := 0xef0

/-- Where the display page starts. -/
def displayStart : Nat := 0xf00

/-- Where the font starts. -/
def fontStart : Nat := 0x050

/-- The shapes of the sixteen digits, five bytes each. -/
def font : Bytes := #[
  0xF0, 0x90, 0x90, 0x90, 0xF0,
  0x20, 0x60, 0x20, 0x20, 0x70,
  0xF0, 0x10, 0xF0, 0x80, 0xF0,
  0xF0, 0x10, 0xF0, 0x10, 0xF0,
  0x90, 0x90, 0xF0, 0x10, 0x10,
  0xF0, 0x80, 0xF0, 0x10, 0xF0,
  0xF0, 0x80, 0xF0, 0x90, 0xF0,
  0xF0, 0x10, 0x20, 0x40, 0x40,
  0xF0, 0x90, 0xF0, 0x90, 0xF0,
  0xF0, 0x90, 0xF0, 0x10, 0xF0,
  0xF0, 0x90, 0xF0, 0x90, 0x90,
  0xE0, 0x90, 0xE0, 0x90, 0xE0,
  0xF0, 0x80, 0x80, 0x80, 0xF0,
  0xE0, 0x90, 0x90, 0x90, 0xE0,
  0xF0, 0x80, 0xF0, 0x80, 0xF0,
  0xF0, 0x80, 0xF0, 0x80, 0x80]

/-! ## Bytes -/

/-- The byte at an address; above the memory there are zeros. -/
def get (m : Memory) (address : Nat) : UInt8 := m.bytes[address]?.getD 0

/-- The memory with `len` bytes from `start` on replaced by `f 0`, `f 1`, … -/
def overwrite (m : Memory) (start len : Nat) (f : Nat → UInt8) : Memory :=
  ⟨Vector.ofFn fun i => if start ≤ i.val ∧ i.val < start + len then f (i - start) else m.bytes[i]⟩

theorem get_overwrite (m : Memory) (start len : Nat) (f : Nat → UInt8) (i : Nat) :
    (m.overwrite start len f).get i =
      if i < size ∧ start ≤ i ∧ i < start + len then f (i - start) else m.get i := by
  by_cases h : i < 4096
  · by_cases h' : start ≤ i ∧ i < start + len <;> simp [get, overwrite, size, h, h']
  · have : ¬ i < size := by simpa [size] using h
    simp [get, this, Nat.not_lt.mp h]

theorem get_of_size_le (m : Memory) {i : Nat} (h : size ≤ i) : m.get i = 0 := by
  have : ¬ i < 4096 := by simpa [size] using h
  simp [get, Nat.not_lt.mp this]

/-- Memories with the same byte at every address are the same. -/
theorem ext_get {m m' : Memory} (h : ∀ i < size, m.get i = m'.get i) : m = m' := by
  obtain ⟨v⟩ := m
  obtain ⟨v'⟩ := m'
  have same : v = v' := Vector.ext fun i hi => by simpa [get, hi] using h i hi
  rw [same]

/-! ## Ranges -/

/-- Whether a range is inside the memory. -/
def Inside (start len : Nat) : Prop := start + len ≤ size

instance (start len : Nat) : Decidable (Inside start len) :=
  inferInstanceAs (Decidable (_ ≤ _))

/-- The bytes of a range. -/
def read? (m : Memory) (start len : Nat) : Option (List UInt8) :=
  if Inside start len then some ((List.range len).map fun i => m.get (start + i)) else none

/-- The memory with a range set to the given bytes. -/
def write? (m : Memory) (start : Nat) (data : Bytes) : Option Memory :=
  if Inside start data.size then some (m.overwrite start data.size fun i => data[i]?.getD 0)
  else none

/-- The memory with every byte of a range set to one value. -/
def fill? (m : Memory) (start len : Nat) (b : UInt8) : Option Memory :=
  if Inside start len then some (m.overwrite start len fun _ => b) else none

/-- The memory with a range set to zero. -/
def clear? (m : Memory) (start len : Nat) : Option Memory := m.fill? start len 0

/-- The two bytes from an address on as a number, the first counting 256 times. -/
def word? (m : Memory) (start : Nat) : Option UInt16 :=
  if Inside start 2 then some ((m.get start).toUInt16 * 256 + (m.get (start + 1)).toUInt16)
  else none

/-! ## The parts of the map -/

/-- The memory before anything is loaded: the font and zeros. -/
def initial : Memory :=
  (Memory.mk (Vector.replicate 4096 0)).overwrite fontStart font.size fun i => font[i]?.getD 0

instance : Inhabited Memory := ⟨initial⟩

/-- The memory without a program. -/
def clearProgram (m : Memory) : Memory := m.overwrite programStart programCapacity fun _ => 0

/-- The memory with a program in place of the old one, if there is room. -/
def loadProgram (m : Memory) (program : Bytes) : Except OversizedProgram Memory :=
  if programCapacity < program.size then .error ⟨program.size, programCapacity⟩
  else .ok (m.clearProgram.overwrite programStart program.size fun i => program[i]?.getD 0)

/-- The memory with everything above the program set to zero: stack, work area,
variables and display page. -/
def clearSystemArea (m : Memory) : Memory :=
  m.overwrite systemStart (size - systemStart) fun _ => 0

/-- The bytes of the display page, which hold one bit for each pixel. -/
def displayPage (m : Memory) : Vector UInt8 256 :=
  Vector.ofFn fun i => m.get (displayStart + i.val)

end Memory

end VipHost
