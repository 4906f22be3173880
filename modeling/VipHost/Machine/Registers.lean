import VipHost.Text.Quoted

/-!
# The register file

The registers of the machine as others see and replace them.  A file is always
replaced as a whole; what a snapshot leaves out is zero.
-/

namespace VipHost

/-- The register file. -/
structure Registers where
  /-- The instruction pointer. -/
  pc : UInt16 := 0
  /-- The stack pointer. -/
  sp : UInt8 := 0
  /-- The delay timer. -/
  dt : UInt8 := 0
  /-- The sound timer. -/
  st : UInt8 := 0
  /-- The general registers. -/
  v : Vector UInt8 16 := Vector.replicate 16 0
  /-- The index register. -/
  i : UInt16 := 0
deriving DecidableEq

namespace Registers

instance : Inhabited Registers := ⟨{}⟩

/-- The registers on one line, as log events show them. -/
def details (r : Registers) : String :=
  let general := Text.bracketed (r.v.toList.map toString)
  "Registers \x7b pc: " ++ toString r.pc ++ ", sp: " ++ toString r.sp ++ ", dt: " ++
    toString r.dt ++ ", st: " ++ toString r.st ++ ", v: " ++ general ++ ", i: " ++
    toString r.i ++ " \x7d"

end Registers

end VipHost
