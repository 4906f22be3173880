import VipHost.Binary64.Arithmetic

/-!
# Refreshes

When the display is refreshed.  A rate gives the period between refreshes; a
`Refreshes` value is a list of time stamps that are handed out one by one and
then run out.
-/

namespace VipHost

/-- Nanoseconds in a second. -/
def nanosPerSecond : Nat := 1000000000

/-- The period of a rate in refreshes a second, in nanoseconds: the nearest
whole number to `1 / rate` seconds.  Rates below one, and what is not a number,
count as one. -/
def refreshPeriod (rate : Binary64) : Nat :=
  let seconds := (Binary64.ofNat 1).div (rate.max (.ofNat 1))
  Binary64.roundHalfEven (Binary64.unitsOf seconds.pattern * nanosPerSecond) Binary64.unitsPerOne

/-- Time stamps still to come, in milliseconds. -/
structure Refreshes where
  /-- The stamps, the next one first. -/
  times : List Binary64
deriving DecidableEq, Repr, Inhabited

namespace Refreshes

/-- The next stamp, if there is one, and what is left. -/
def next (r : Refreshes) : Option Binary64 × Refreshes := (r.times.head?, ⟨r.times.tail⟩)

/-- One more stamp after all others. -/
def push (r : Refreshes) (time : Binary64) : Refreshes := ⟨r.times ++ [time]⟩

end Refreshes

end VipHost
