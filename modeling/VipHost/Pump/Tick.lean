import VipHost.Display.Recorder
import VipHost.Pump.Control
import VipHost.Session

/-!
# Handling one refresh

A refresh is handled in steps.  First the state of the control is read, and a
refresh that finds it idle or stopped is refused.  Then an armed control is
claimed.  The rest happens while the session is held: the control is looked at
once more, so that a cancel that came in between still wins, the machine is
advanced to the time stamp, and its picture is drawn.  Nobody sees a picture of
a half finished advance, and nothing is loaded between advance and draw.

Whatever the display does, the session after a refresh that was not refused is
the session advanced to the time stamp.
-/

namespace VipHost

/-- What a refresh works on. -/
structure Stage where
  /-- The machine and its clock. -/
  session : Session
  /-- The control all pumps share. -/
  control : PumpState := .idle
  /-- Where pictures are shown. -/
  display : Display := {}
deriving Inhabited

/-- How a refresh ended. -/
inductive Ticked where
  /-- Nothing was done. -/
  | refused
  /-- The machine was advanced by a virtual time and its picture was shown. -/
  | shown (elapsed : UInt64)
  /-- The machine was advanced and the display failed. -/
  | failed (e : IoError)
  /-- The machine was advanced and the display crashed. -/
  | crashed
deriving DecidableEq, Repr

namespace Stage

/-- Advance the machine and draw its picture. -/
def present (s : Stage) (now : Binary64) : Logged (Ticked × Stage) := do
  let (elapsed, session) ← s.session.advanceTo now
  let control ← if s.display.nextCancels then s.control.cancel else pure s.control
  let (drawn, display) := s.display.draw session.machine.frame
  let ticked := match drawn with
    | .shown => .shown elapsed
    | .failed e => .failed e
    | .crashed => .crashed
  return (ticked, { session, control, display })

/-- The part of a refresh that holds the session: nothing if the control was
cancelled in the meantime. -/
def presentUnlessCancelled (s : Stage) (now : Binary64) : Logged (Ticked × Stage) :=
  if s.control.isCancelled then return (.refused, s) else s.present now

/-- Handle one refresh. -/
def tick (s : Stage) (now : Binary64) : Logged (Ticked × Stage) :=
  if s.control.admits then do
    let control ← s.control.claim
    { s with control }.presentUnlessCancelled now
  else return (.refused, s)

end Stage

/-- How many pictures a refresh showed. -/
def Ticked.frames : Ticked → Nat
  | .shown _ => 1
  | _ => 0

end VipHost
