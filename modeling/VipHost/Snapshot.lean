import VipHost.Machine.Registers
import VipHost.Toml.Diagnostic

/-!
# Register snapshots

The register file as a TOML text.  Reading back what `Registers.dump` writes
gives the same registers; a text may also leave registers out, which then are
zero.
-/

namespace VipHost.Registers

/-- The registers with one more entry of a document.  Other keys are passed
over. -/
def field (r : Registers) (entry : Toml.Entry) : Except Toml.Problem Registers :=
  match entry.1.name with
  | "pc" => (Toml.atKey entry Toml.natural16).map fun pc => { r with pc }
  | "sp" => (Toml.atKey entry Toml.natural8).map fun sp => { r with sp }
  | "dt" => (Toml.atKey entry Toml.natural8).map fun dt => { r with dt }
  | "st" => (Toml.atKey entry Toml.natural8).map fun st => { r with st }
  | "v" => (Toml.atKey entry (Toml.listOf 16 Toml.natural8)).map fun v => { r with v }
  | "i" => (Toml.atKey entry Toml.natural16).map fun i => { r with i }
  | _ => .ok r

/-- The registers a snapshot stands for. -/
def ofText (text : String) : Except Toml.Error Registers := Toml.decodeText field {} text

/-- The registers as a snapshot. -/
def dump (r : Registers) : String :=
  "pc = " ++ toString r.pc ++ "\n" ++
  "sp = " ++ toString r.sp ++ "\n" ++
  "dt = " ++ toString r.dt ++ "\n" ++
  "st = " ++ toString r.st ++ "\n" ++
  "v = " ++ Text.bracketed (r.v.toList.map toString) ++ "\n" ++
  "i = " ++ toString r.i ++ "\n"

end VipHost.Registers
