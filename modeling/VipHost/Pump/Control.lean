import VipHost.Log.Event

/-!
# The control of a pump

The control says whether refreshes are handled.  It goes from idle to armed by
the one start that takes effect, from armed to running by the first refresh,
and from anywhere to stopped, where it stays (`Bench.stopped_perform`, and with
several pumps at work `Floor.stopped_step`).  All pumps of a host share one
control.
-/

namespace VipHost

/-- The state of the control. -/
inductive PumpState where
  /-- Waiting for the start. -/
  | idle
  /-- Started, no refresh handled yet. -/
  | armed
  /-- Refreshes are handled. -/
  | running
  /-- Cancelled, for good. -/
  | stopped
deriving DecidableEq, Repr, Inhabited

namespace PumpState

/-- The name of a state. -/
def name : PumpState → String
  | .idle => "Idle"
  | .armed => "Armed"
  | .running => "Running"
  | .stopped => "Stopped"

/-- An event about the control. -/
def event (level : Log.Level) (message : String) (fields : List (String × String)) : Log.Event :=
  { level, source := .pump, message, fields }

/-- The control after a start, and whether the start took effect. -/
def start : PumpState → Logged (Bool × PumpState)
  | .idle => do
    Logged.say (event .info "render pump armed" [])
    return (true, .armed)
  | s => do
    Logged.say (event .debug "start trigger ignored" [("state", s.name)])
    return (false, s)

/-- The control after a cancel. -/
def cancel : PumpState → Logged PumpState
  | .stopped => return .stopped
  | _ => do
    Logged.say (event .info "render pump cancelled" [])
    return .stopped

/-- Whether the control was cancelled. -/
def isCancelled (s : PumpState) : Bool := s = .stopped

/-- Whether a refresh goes on to the machine when it finds this state. -/
def admits : PumpState → Bool
  | .idle => false
  | .armed => true
  | .running => true
  | .stopped => false

/-- The control after an admitted refresh has claimed it: armed becomes running,
any other state stays as it is. -/
def claim : PumpState → Logged PumpState
  | .armed => do
    Logged.say (event .info "render pump running" [])
    return .running
  | s => return s

@[simp] theorem value_cancel (s : PumpState) : s.cancel.value = .stopped := by
  cases s <;> rfl

@[simp] theorem value_claim (s : PumpState) :
    s.claim.value = if s = .armed then .running else s := by
  cases s <;> rfl

end PumpState

end VipHost
