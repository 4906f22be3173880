import VipHost.Files
import VipHost.Machine.Basic

/-!
# Displays

What the pump shows pictures on.  A `Display` keeps every picture it has shown;
its *conduct* says for each draw, counted from one, how it goes: it may fail, it
may crash before it does anything, and it may cancel the pump while it draws.
A draw that fails or crashes shows nothing.
-/

namespace VipHost

/-- How one draw goes. -/
structure Conduct where
  /-- The display crashes and does nothing else. -/
  crashes : Bool := false
  /-- The display cancels the pump. -/
  cancels : Bool := false
  /-- The display reports a failure. -/
  failure : Option IoError := none
deriving DecidableEq, Repr, Inhabited

/-- A display. -/
structure Display where
  /-- Pixels in a row. -/
  width : Nat := frameWidth
  /-- Rows. -/
  height : Nat := frameHeight
  /-- How the draws go, by their number. -/
  conduct : Nat → Conduct := fun _ => {}
  /-- How many draws there were. -/
  draws : Nat := 0
  /-- The pictures shown, oldest first. -/
  shown : Array Frame := #[]

instance : Inhabited Display := ⟨{}⟩

/-- How a draw ended. -/
inductive Drawn where
  | shown
  | failed (e : IoError)
  | crashed
deriving DecidableEq, Repr

namespace Display

/-- The size of the display. -/
def resolution (d : Display) : Nat × Nat := (d.width, d.height)

/-- How the next draw goes. -/
def nextConduct (d : Display) : Conduct := d.conduct (d.draws + 1)

/-- Whether the next draw cancels the pump. -/
def nextCancels (d : Display) : Bool := !d.nextConduct.crashes && d.nextConduct.cancels

/-- Draw a picture. -/
def draw (d : Display) (frame : Frame) : Drawn × Display :=
  let counted := { d with draws := d.draws + 1 }
  if d.nextConduct.crashes then (.crashed, counted)
  else match d.nextConduct.failure with
  | some e => (.failed e, counted)
  | none => (.shown, { counted with shown := d.shown.push frame })

end Display

end VipHost
