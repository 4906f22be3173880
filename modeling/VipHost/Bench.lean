import VipHost.Display.Recorder
import VipHost.Host
import VipHost.Keyboard.Meaning
import VipHost.Pump.Tick

/-!
# A host at work

A bench is a host with all it works with: program files, a display, pumps that
count the pictures they have shown, and perhaps a hold for keys.  A *request* is
anything that can be asked of it between refreshes; `Bench.answer` gives what
comes of a request.  `Bench.tick` is one refresh of one of the pumps, and
`Bench.run` handles a whole script of refreshes, with requests carried out when
the pump waits for the next refresh.

Requests that reach outside the memory are *refused* and change nothing.  In the
middle of a run, a refused request brings the run down with it.
-/

namespace VipHost

/-- A host with all it works with. -/
structure Bench where
  /-- The host. -/
  host : Host
  /-- The program files. -/
  files : Files := {}
  /-- The hold, where the terminal reports no releases. -/
  hold : Option Hold := none
  /-- Where pictures are shown. -/
  display : Display := {}
  /-- How many pictures each pump has shown. -/
  pumps : Array Nat := #[0]
deriving Inhabited

/-- What can be asked between refreshes. -/
inductive Request where
  | load (program : Bytes)
  | loadFrom (source : Host.Source)
  /-- Load a file and remember it. -/
  | openFile (path : String)
  /-- Load a file without remembering it. -/
  | loadFile (path : String)
  | reload
  | reset
  | writeFile (path : String) (contents : Bytes)
  | removeFile (path : String)
  | start
  | cancel
  | isCancelled
  | key (c : Char) (state : KeyState)
  | layout
  | event (e : HostEvent)
  /-- A keyboard event at an instant in microseconds. -/
  | keyboard (e : KeyEvent) (now : Nat)
  /-- Release the held keys whose time ran out. -/
  | expire (now : Nat)
  | holdPress (c : Char) (now : Nat)
  | isHeld (c : Char)
  | holdClear
  | readRegisters
  | writeRegisters (r : Registers)
  | writeSnapshot (text : String)
  | dumpRegisters
  | poke (start : Nat) (data : Bytes)
  | peek (start len : Nat)
  | invalidate
  | advanceTo (now : Binary64)
  | frame
  | frameSize
  | seed

/-- What comes of a request. -/
inductive Answer where
  | nothing
  | flag (b : Bool)
  | key (k : Option Key)
  | layout (l : Layout)
  /-- The event asked for, if any, and whether the host goes on. -/
  | event (e : Option (HostEvent × Bool))
  | released (cs : List Char)
  | registers (r : Registers)
  | text (s : String)
  | bytes (bs : List UInt8)
  | elapsed (t : UInt64)
  | frame (f : Option Frame)
  | size (width height : Nat)
  | seed (s : UInt64)
  | failed (e : HostError)
  | refused

namespace Bench

/-- A bench with a fresh host. -/
def start (seed : UInt64) (layout : Layout) (hold : Option Hold) : Logged Bench := do
  return { host := ← Host.start seed layout, hold }

/-- The bench with another session. -/
def withSession (b : Bench) (session : Session) : Bench :=
  { b with host := { b.host with session } }

/-- The answer for a result that is nothing but done or failed. -/
def Answer.ofResult : Except HostError Unit → Answer
  | .ok () => .nothing
  | .error e => .failed e

/-- Release characters one after the other. -/
def releaseAll (b : Bench) : List Char → Logged Bench
  | [] => return b
  | c :: cs => do
    let (_, host) ← b.host.handle b.files.read (.key c .released)
    { b with host }.releaseAll cs

/-- What comes of a request. -/
def answer (b : Bench) (r : Request) : Logged (Answer × Bench) :=
  match r with
  | .load program => do
    let (result, host) ← b.host.load program
    return (Answer.ofResult result, { b with host })
  | .loadFrom source => do
    let (result, host) ← b.host.loadFrom source
    return (Answer.ofResult result, { b with host })
  | .openFile path => do
    let (result, host) ← b.host.openFile b.files.read path
    return (Answer.ofResult result, { b with host })
  | .loadFile path => do
    let (result, host) ← b.host.loadFile b.files.read path
    return (Answer.ofResult result, { b with host })
  | .reload => do
    let (result, host) ← b.host.reload b.files.read
    match result with
    | .ok loaded => return (.flag loaded, { b with host })
    | .error e => return (.failed e, { b with host })
  | .reset => do
    return (.nothing, { b with host := ← b.host.reset })
  | .writeFile path contents => return (.nothing, { b with files := b.files.write path contents })
  | .removeFile path => return (.nothing, { b with files := b.files.remove path })
  | .start => do
    let (started, host) ← b.host.startPumps
    return (.flag started, { b with host })
  | .cancel => do
    return (.nothing, { b with host := ← b.host.cancel })
  | .isCancelled => return (.flag b.host.control.isCancelled, b)
  | .key c state => do
    let (key, host) ← b.host.keyEvent c state
    return (.key key, { b with host })
  | .layout => return (.layout b.host.layout, b)
  | .event e => do
    let (goesOn, host) ← b.host.handle b.files.read e
    return (.flag goesOn, { b with host })
  | .keyboard e now => do
    let (asked, hold) ← e.meaning b.hold now
    match asked with
    | none => return (.event none, { b with hold })
    | some asked =>
      let (goesOn, host) ← b.host.handle b.files.read asked
      return (.event (some (asked, goesOn)), { b with host, hold })
  | .expire now =>
    match b.hold with
    | none => return (.nothing, b)
    | some hold => do
      let (out, hold) := hold.expire now
      let b ← { b with hold := some hold }.releaseAll out
      return (.released out, b)
  | .holdPress c now =>
    match b.hold with
    | none => return (.nothing, b)
    | some hold =>
      let (fresh, hold) := hold.press c now
      return (.flag fresh, { b with hold := some hold })
  | .isHeld c => return (b.hold.elim .nothing fun hold => .flag (hold.isHeld c), b)
  | .holdClear => return (.nothing, { b with hold := b.hold.map Hold.clear })
  | .readRegisters => return (.registers b.host.registers, b)
  | .writeRegisters registers => do
    return (.nothing, { b with host := ← b.host.writeRegisters registers })
  | .writeSnapshot text => do
    let (result, host) ← b.host.writeSnapshot text
    match result with
    | .ok registers => return (.registers registers, { b with host })
    | .error e => return (.failed e, { b with host })
  | .dumpRegisters => return (.text b.host.registers.dump, b)
  | .poke start data =>
    let session := b.host.session
    match session.machine.memory.write? start data with
    | none => return (.refused, b)
    | some memory =>
      return (.nothing, b.withSession { session with machine := { session.machine with memory } })
  | .peek start len =>
    return ((b.host.session.machine.memory.read? start len).elim .refused .bytes, b)
  | .invalidate => do
    return (.nothing, b.withSession (← b.host.session.invalidate))
  | .advanceTo now => do
    let (elapsed, session) ← b.host.session.advanceTo now
    return (.elapsed elapsed, b.withSession session)
  | .frame => return (.frame b.host.session.frame?, b)
  | .frameSize =>
    let (width, height) := b.host.session.frameSize
    return (.size width height, b)
  | .seed => return (.seed b.host.session.machine.seed, b)

/-! ## Pumps -/

/-- What a refresh works on. -/
def stage (b : Bench) : Stage := ⟨b.host.session, b.host.control, b.display⟩

/-- The bench after a refresh of one of its pumps. -/
def afterTick (b : Bench) (pump : Nat) (ticked : Ticked) (s : Stage) : Bench :=
  { b with
    host := { b.host with session := s.session, control := s.control }
    display := s.display
    pumps := b.pumps.modify pump (· + ticked.frames) }

/-- Handle one refresh by one of the pumps. -/
def tick (b : Bench) (pump : Nat) (now : Binary64) : Logged (Ticked × Bench) := do
  let (ticked, stage) ← b.stage.tick now
  return (ticked, b.afterTick pump ticked stage)

/-- The bench with one more pump. -/
def addPump (b : Bench) : Bench := { b with pumps := b.pumps.push 0 }

/-- How many pictures a pump has shown. -/
def framesOf (b : Bench) (pump : Nat) : Nat := b.pumps[pump]?.getD 0

/-- A refresh by a further pump, with a display of its own, that finds the
session held: while it waits the control is cancelled.  How the refresh ended,
and how many pictures its display shows.  What the waiting pump says is not
heard here. -/
def cancelWhileWaiting (b : Bench) (now : Binary64) : Logged ((Ticked × Nat) × Bench) := do
  let admitted := b.host.control.admits
  let claimed := if admitted then b.host.control.claim.value else b.host.control
  let host ← { b.host with control := claimed }.cancel
  if admitted then
    let stage : Stage := ⟨host.session, host.control, {}⟩
    let (ticked, stage) := (stage.presentUnlessCancelled now).value
    let host := { host with session := stage.session, control := stage.control }
    return ((ticked, stage.display.shown.size), { b with host })
  else return ((.refused, 0), { b with host })

/-! ## Scripts -/

/-- What is next in a script. -/
inductive Cue where
  /-- A refresh at a time stamp. -/
  | refresh (now : Binary64)
  /-- A request while the pump waits. -/
  | request (r : Request)

/-- How a run ended. -/
inductive RunEnd where
  /-- Cancelled, or out of refreshes. -/
  | finished
  /-- The display has another size than the picture, or failed. -/
  | failed (e : IoError)
  /-- The display crashed, or a request was refused. -/
  | crashed
deriving DecidableEq, Repr

/-- What came of a run. -/
structure RunResult where
  /-- How it ended. -/
  ending : RunEnd
  /-- The answers to the requests, in order. -/
  answers : List Answer
  /-- What was not used of the script. -/
  left : List Cue

/-- The failure of a display with another size than the picture. -/
def sizeMismatch (display picture : Nat × Nat) : IoError :=
  .custom .invalidInput ("display is " ++ pair display ++ " but the core draws " ++ pair picture)
where
  /-- A width and a height. -/
  pair (size : Nat × Nat) : String :=
    "(" ++ toString size.1 ++ ", " ++ toString size.2 ++ ")"

/-- The end of a run that was not cut short. -/
def finish (b : Bench) (pump : Nat) (answers : List Answer) (left : List Cue) :
    Logged (RunResult × Bench) := do
  Logged.say
    { level := .info, source := .pump, message := "render pump finished"
      fields := [("frames", toString (b.framesOf pump))] }
  return (⟨.finished, answers, left⟩, b)

/-- The end of a run that a refresh cut short. -/
def abort (b : Bench) (e : IoError) (answers : List Answer) (left : List Cue) :
    Logged (RunResult × Bench) := do
  return (⟨.failed e, answers, left⟩, { b with host := ← b.host.cancel })

/-- Handle refresh after refresh.  The control is looked at before each wait;
`waiting` says that the pump is already waiting for the next refresh. -/
def pumpScript (pump : Nat) :
    Bool → List Answer → Bench → List Cue → Logged (RunResult × Bench)
  | waiting, answers, b, [] =>
    if !waiting && b.host.control.isCancelled then b.finish pump answers []
    else do
      Logged.say (PumpState.event .debug "scheduler has no more refreshes" [])
      b.finish pump answers []
  | waiting, answers, b, .request r :: left =>
    if !waiting && b.host.control.isCancelled then b.finish pump answers (.request r :: left)
    else do
      let (a, b) ← b.answer r
      match a with
      | .refused => return (⟨.crashed, answers, left⟩, b)
      | a => pumpScript pump true (answers ++ [a]) b left
  | waiting, answers, b, .refresh now :: left =>
    if !waiting && b.host.control.isCancelled then b.finish pump answers (.refresh now :: left)
    else do
      let (ticked, b) ← b.tick pump now
      match ticked with
      | .failed e => b.abort e answers left
      | .crashed => return (⟨.crashed, answers, left⟩, b)
      | _ => pumpScript pump false answers b left

/-- Handle a script of refreshes by one of the pumps, until the control is
cancelled, the script is used up, or a refresh cannot be shown. -/
def run (b : Bench) (pump : Nat) (script : List Cue) : Logged (RunResult × Bench) :=
  let size := b.host.session.frameSize
  if b.display.resolution = size then pumpScript pump false [] b script
  else b.abort (sizeMismatch b.display.resolution size) [] script

end Bench

end VipHost
