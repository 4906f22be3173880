import VipHost.Files
import VipHost.Keyboard.KeyEvent
import VipHost.Keypad.Layout
import VipHost.Pump.Control
import VipHost.Session
import VipHost.Snapshot

/-!
# The host

One machine and everything that talks to it: a loader for programs, a router
for keys, a view of the registers, and the control of the pumps.  All of them
work on the same session.

A request either takes effect as a whole or fails and leaves the session, the
control and the remembered program file as they were.
-/

namespace VipHost

/-- The host. -/
structure Host where
  /-- The machine and its clock. -/
  session : Session
  /-- The control all pumps share. -/
  control : PumpState := .idle
  /-- Which characters stand for the keypad. -/
  layout : Layout := .conventional
  /-- The last program file that was loaded, for loading it again. -/
  programPath : Option String := none
deriving Inhabited

/-- Why a request fails. -/
inductive HostError where
  | oversized (e : OversizedProgram)
  | io (e : IoError)
  | registers (e : Toml.Error)
deriving DecidableEq, Repr

/-- What is said about a request that fails. -/
def HostError.message : HostError → String
  | .oversized e => e.message
  | .io e => "i/o error: " ++ e.message
  | .registers e => "invalid register snapshot: " ++ e.message

namespace Host

/-- An event about the host as a whole. -/
def event (level : Log.Level) (message : String) (fields : List (String × String)) : Log.Event :=
  { level, source := .host, message, fields }

/-- A host whose machine was just switched on. -/
def start (seed : UInt64) (layout : Layout) : Logged Host := do
  Logged.say (event .info "constructing core" [("seed", toString seed)])
  return { session := .start seed, layout }

/-! ## Programs -/

/-- The host with a fresh program. -/
def load (h : Host) (program : Bytes) : Logged (Except HostError Unit × Host) := do
  let (result, session) ← h.session.load program
  return (result.mapError .oversized, { h with session })

/-- What comes out of a reader: bytes, and then perhaps a failure. -/
structure Source where
  /-- The bytes before the end or the failure. -/
  bytes : Bytes
  /-- The failure, if the reader does not reach its end. -/
  failure : Option IoError := none
deriving Inhabited

/-- A reader that yields some bytes, at most `chunk` at a time, and then perhaps
fails.  A reader that yields nothing although there is more has reached its end
as far as anyone can tell. -/
def Source.chunked (bytes : Bytes) (chunk : Nat) (failure : Option IoError) : Source :=
  if chunk = 0 && bytes.size ≠ 0 then { bytes := #[] } else { bytes, failure }

/-- The host with the program that a reader yields.  Nothing is loaded unless
the reader reaches its end. -/
def loadFrom (h : Host) (source : Source) : Logged (Except HostError Unit × Host) :=
  match source.failure with
  | some e => return (.error (.io e), h)
  | none => h.load source.bytes

/-- What is said before a program file is read. -/
def readingProgram (path : String) : Log.Event :=
  { level := .info, source := .loader, message := "reading program"
    fields := [("path", Text.quoted path)] }

/-- The host with the program in a file. -/
def loadFile (h : Host) (read : FileReader) (path : String) :
    Logged (Except HostError Unit × Host) := do
  Logged.say (readingProgram path)
  match read path with
  | .error e => return (.error (.io e), h)
  | .ok program => h.load program

/-- The host with the program in a file, which is remembered if it was
loaded. -/
def openFile (h : Host) (read : FileReader) (path : String) :
    Logged (Except HostError Unit × Host) := do
  let (result, h) ← h.loadFile read path
  match result with
  | .error e => return (.error e, h)
  | .ok () => return (.ok (), { h with programPath := some path })

/-- Load the remembered program file again; false if there is none. -/
def reload (h : Host) (read : FileReader) : Logged (Except HostError Bool × Host) :=
  match h.programPath with
  | none => return (.ok false, h)
  | some path => do
    let (result, h) ← h.loadFile read path
    return (result.map fun _ => true, h)

/-- The host with a machine that was switched off and on. -/
def reset (h : Host) : Logged Host := do
  return { h with session := ← h.session.reset }

/-! ## Keys -/

/-- Pass a character on to the keypad; the key it stands for, if any. -/
def keyEvent (h : Host) (c : Char) (state : KeyState) : Logged (Option Key × Host) :=
  match h.layout.key? c with
  | none => do
    Logged.say
      { level := .trace, source := .keyboard, message := "no keypad mapping, dropped"
        fields := [("host", Text.quotedChar c)] }
    return (none, h)
  | some key => do
    return (some key, { h with session := ← h.session.keyEvent key state })

/-! ## Registers -/

/-- The registers. -/
def registers (h : Host) : Registers := h.session.machine.registers

/-- The host with other registers. -/
def writeRegisters (h : Host) (registers : Registers) : Logged Host := do
  return { h with session := ← h.session.writeRegisters registers }

/-- The host with the registers of a snapshot; what the snapshot leaves out is
zero. -/
def writeSnapshot (h : Host) (text : String) : Logged (Except HostError Registers × Host) :=
  match Registers.ofText text with
  | .error e => return (.error (.registers e), h)
  | .ok registers => do
    return (.ok registers, ← h.writeRegisters registers)

/-! ## The control -/

/-- Start the pumps; whether this took effect. -/
def startPumps (h : Host) : Logged (Bool × Host) := do
  let (started, control) ← h.control.start
  return (started, { h with control })

/-- Stop the pumps for good. -/
def cancel (h : Host) : Logged Host := do
  return { h with control := ← h.control.cancel }

/-! ## Events -/

/-- Act on an event; false once the host is asked to stop. -/
def handle (h : Host) (read : FileReader) (e : HostEvent) : Logged (Bool × Host) :=
  match e with
  | .key c state => do
    let (_, h) ← h.keyEvent c state
    return (true, h)
  | .start => do
    let (_, h) ← h.startPumps
    return (true, h)
  | .reset => do
    return (true, ← h.reset)
  | .reload => do
    let (result, h) ← h.reload read
    match result with
    | .ok true => return (true, h)
    | .ok false =>
      Logged.say (event .warn "no program file to reload" [])
      return (true, h)
    | .error e =>
      Logged.say (event .error "reload failed" [("e", e.message)])
      return (true, h)
  | .dumpRegisters => do
    Logged.say (event .info "register dump" [("registers", h.registers.dump)])
    return (true, h)
  | .quit => do
    return (false, ← h.cancel)

end Host

end VipHost
