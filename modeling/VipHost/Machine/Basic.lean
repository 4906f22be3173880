import VipHost.Clock.VirtualTime
import VipHost.Keypad.Key
import VipHost.Log.Event
import VipHost.Machine.Memory
import VipHost.Machine.Registers

/-!
# The machine

The state of a COSMAC VIP that runs a program: memory, registers, keypad, two
timers and the picture.  Executing instructions is the business of an
interpreter and not described here; time only drives the timers and brings the
picture up to date with the display page.

The timers count down 60 times a second of virtual time.  Time that does not
fill a period is kept as *debt* for the next advance, so it does not matter how
a stretch of time is cut into advances.
-/

namespace VipHost

/-! ## Pictures -/

/-- Pixels in a row of the picture. -/
def frameWidth : Nat := 64

/-- Rows of the picture. -/
def frameHeight : Nat := 32

/-- A picture, one byte to a pixel, row after row. -/
abbrev Frame := Vector UInt8 2048

namespace Frame

/-- The intensity of a lit pixel. -/
def lit : UInt8 := 0xff

/-- The intensity of a dark pixel. -/
def dark : UInt8 := 0x00

/-- The picture without a lit pixel. -/
def blank : Frame := Vector.replicate 2048 dark

/-- The picture of a display page: each byte is eight pixels, the leftmost in
the most significant bit. -/
def ofPage (page : Vector UInt8 256) : Frame :=
  Vector.ofFn fun i =>
    have h : i.val / 8 < 256 := by omega
    if (page.get ⟨i.val / 8, h⟩).toNat.testBit (7 - i.val % 8) then lit else dark

end Frame

/-! ## Timers -/

/-- The microseconds between two counts of the timers. -/
def timerPeriod : UInt64 := 16667

/-- A timer after a number of counts; it stops at zero. -/
def countDown (timer : UInt8) (counts : Nat) : UInt8 := UInt8.ofNat (timer.toNat - counts)

/-! ## The machine -/

/-- The machine. -/
structure Machine where
  /-- The memory. -/
  memory : Memory
  /-- The registers. -/
  registers : Registers
  /-- The keypad. -/
  keypad : Keypad
  /-- The picture. -/
  frame : Frame
  /-- Where random numbers start. -/
  seed : UInt64
  /-- Virtual time the timers have not counted yet. -/
  timerDebt : UInt64
deriving DecidableEq

namespace Machine

/-- The registers of a machine that has not run. -/
def initialRegisters : Registers :=
  { pc := UInt16.ofNat Memory.programStart, sp := UInt8.ofNat (Memory.stackStart % 256) }

/-- A machine that was just switched on. -/
def powerOn (seed : UInt64) : Machine where
  memory := .initial
  registers := initialRegisters
  keypad := .allReleased
  frame := .blank
  seed := seed
  timerDebt := 0

instance : Inhabited Machine := ⟨powerOn 0⟩

/-- Everything but the program, the memory below it and the seed is as after
switching on. -/
def restart (m : Machine) : Machine :=
  { m with
    memory := m.memory.clearSystemArea
    registers := initialRegisters
    keypad := .allReleased
    frame := .blank
    timerDebt := 0 }

/-- The machine with a fresh program, if it fits. -/
def load (m : Machine) (program : Bytes) : Except OversizedProgram Machine :=
  (m.memory.loadProgram program).map fun memory => { m with memory }.restart

/-- The machine without a program. -/
def reset (m : Machine) : Machine :=
  { m with memory := m.memory.clearProgram }.restart

/-- The timers after a stretch of virtual time. -/
def runTimers (m : Machine) (elapsed : UInt64) : Machine :=
  let debt := saturatingAdd m.timerDebt elapsed
  let counts := min (debt / timerPeriod).toNat 255
  { m with
    timerDebt := debt % timerPeriod
    registers :=
      { m.registers with
        dt := countDown m.registers.dt counts
        st := countDown m.registers.st counts } }

/-- The machine with its picture brought up to date. -/
def refreshFrame (m : Machine) : Machine :=
  { m with frame := .ofPage m.memory.displayPage }

/-- The machine after a stretch of virtual time. -/
def advance (m : Machine) (elapsed : UInt64) : Machine := (m.runTimers elapsed).refreshFrame

/-- The machine after a key event. -/
def keyEvent (m : Machine) (key : Key) (state : KeyState) : Logged Machine := do
  Logged.say
    { level := .trace, source := .machine, message := "keypad"
      fields := [("key", key.name), ("state", state.name)] }
  return { m with keypad := m.keypad.set key state }

@[simp] theorem value_keyEvent (m : Machine) (key : Key) (state : KeyState) :
    (m.keyEvent key state).value = { m with keypad := m.keypad.set key state } := rfl

/-- The machine with other registers. -/
def setRegisters (m : Machine) (registers : Registers) : Machine := { m with registers }

end Machine

end VipHost
