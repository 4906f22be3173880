import VipHost.Clock.Baseline
import VipHost.Machine.Basic

/-!
# Sessions

A session is what has to change together whenever the machine is touched: the
machine, the clock that drives it, and whether its picture may be shown.  A
picture is valid from the first advance on until the program is replaced.

Replacing the program, or switching the machine off and on, is a *barrier*: the
clock forgets its baseline and the picture is no longer valid, so nothing from
before reaches the new program.  A program that does not fit is refused before
anything is touched.
-/

namespace VipHost

/-- A machine with its clock. -/
structure Session where
  /-- The machine. -/
  machine : Machine
  /-- The clock. -/
  clock : Clock := {}
  /-- Whether the picture belongs to the present program. -/
  frameValid : Bool := false
deriving DecidableEq, Inhabited

namespace Session

/-- A session with a machine that was just switched on. -/
def start (seed : UInt64) : Session := { machine := .powerOn seed }

/-- Stale time must not reach the machine, and its picture is not valid. -/
def invalidate (s : Session) : Logged Session := do
  return { s with clock := ← s.clock.discontinuity, frameValid := false }

@[simp] theorem value_invalidate (s : Session) :
    s.invalidate.value = { s with clock := {}, frameValid := false } := rfl

/-- Advance the machine to a time stamp; the virtual time this took. -/
def advanceTo (s : Session) (now : Binary64) : Logged (UInt64 × Session) := do
  let (elapsed, clock) ← s.clock.tick now
  return (elapsed, ⟨s.machine.advance elapsed, clock, true⟩)

/-- The picture, if it is valid. -/
def frame? (s : Session) : Option Frame := if s.frameValid then some s.machine.frame else none

/-- The size of the picture. -/
def frameSize (_ : Session) : Nat × Nat := (frameWidth, frameHeight)

/-- An event about a program. -/
def programEvent (level : Log.Level) (message : String) (fields : List (String × String)) :
    Log.Event :=
  { level, source := .loader, message, fields }

/-- The session with a fresh program.  A program that does not fit leaves the
session as it was. -/
def load (s : Session) (program : Bytes) : Logged (Except OversizedProgram Unit × Session) :=
  match s.machine.load program with
  | .error e => do
    Logged.say (programEvent .warn "program rejected"
      [("size", toString e.size), ("capacity", toString e.capacity)])
    return (.error e, s)
  | .ok machine => do
    let s ← { s with machine }.invalidate
    Logged.say (programEvent .info "program loaded" [("size", toString program.size)])
    return (.ok (), s)

/-- The session with its machine reset; the program has to be loaded again. -/
def reset (s : Session) : Logged Session := do
  let s ← { s with machine := s.machine.reset }.invalidate
  Logged.say (programEvent .info "core reset" [])
  return s

/-- The session after a key event. -/
def keyEvent (s : Session) (key : Key) (state : KeyState) : Logged Session := do
  return { s with machine := ← s.machine.keyEvent key state }

/-- The session with other registers. -/
def writeRegisters (s : Session) (registers : Registers) : Logged Session := do
  Logged.say
    { level := .debug, source := .debugger, message := "overriding registers"
      fields := [("registers", registers.details)] }
  return { s with machine := s.machine.setRegisters registers }

end Session

end VipHost
