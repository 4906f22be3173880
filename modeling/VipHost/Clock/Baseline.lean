import VipHost.Binary64.Arithmetic
import VipHost.Clock.VirtualTime
import VipHost.Log.Event

/-!
# From time stamps to virtual time

The host stamps each refresh with a time in milliseconds; the machine is driven
in whole microseconds.  The clock keeps the stamp of the latest refresh as its
*baseline* and hands out the time since then.  A refresh that has no baseline to
count from, or does not move forward, hands out nothing and becomes the
baseline itself; a stamp that is not finite drops the baseline.  So the machine
never sees a negative time, and never time from before a discontinuity.
-/

namespace VipHost

/-- What is kept between refreshes. -/
structure Clock where
  /-- The stamp of the latest refresh, in milliseconds. -/
  baseline : Option Binary64 := none
  /-- The virtual time handed out since the last discontinuity. -/
  total : UInt64 := 0
deriving DecidableEq, Repr, Inhabited

namespace Clock

/-- Microseconds in a millisecond. -/
def microsPerMilli : Binary64 := .ofNat 1000

/-- The time from one stamp to a later one, in whole microseconds. -/
def span (earlier later : Binary64) : UInt64 :=
  ((later.sub earlier).mul microsPerMilli).toUInt64

/-- An event about the clock. -/
def event (message : String) (fields : List (String × String)) : Log.Event :=
  { level := .trace, source := .clock, message, fields }

/-- The virtual time for a refresh at `now`, and the clock after it. -/
def tick (c : Clock) (now : Binary64) : Logged (UInt64 × Clock) :=
  if !now.isFinite then do
    Logged.say (event "non-finite timestamp, dropping baseline" [("now", Log.time now)])
    return (0, { c with baseline := none })
  else
    match c.baseline with
    | none => do
      Logged.say (event "timing baseline set" [("now", Log.time now)])
      return (0, { c with baseline := some now })
    | some previous =>
      if now.le previous then do
        Logged.say (event "timestamp regression, new baseline"
          [("now", Log.time now), ("previous", Log.time previous)])
        return (0, { c with baseline := some now })
      else
        let elapsed := span previous now
        return (elapsed, ⟨some now, saturatingAdd c.total elapsed⟩)

/-- The clock after a discontinuity: nothing is counted yet. -/
def discontinuity (_ : Clock) : Logged Clock := do
  Logged.say (event "timing discontinuity" [])
  return {}

/-- Whether the next refresh only sets the baseline. -/
def isPending (c : Clock) : Bool := c.baseline.isNone

@[simp] theorem value_discontinuity (c : Clock) : c.discontinuity.value = {} := rfl

end Clock

end VipHost
