import VipHost.Proofs.PowerOn

/-!
# The program area

A program has the addresses from `0x200` up to and including `0xe9f`, room for 3232 bytes.  A load
clears this area and writes the program to its start, both inside the memory
(`Memory.clear?_write?_program`).  So after it the area has the program and zeros, and all other
bytes are the old ones (`Memory.holds_withProgram`).  The machine's load also clears everything
above the area.  What is below is changed by direct writes only
(`Machine.get_operateAll_of_not_pokes`).
-/

namespace VipHost

namespace Memory

/-- A memory has a program and then zeros in the program area, and elsewhere the bytes of an old
memory. -/
structure Holds (m : Memory) (program : Bytes) (old : Memory) : Prop where
  written : ∀ i (within : i < program.size), m.get (0x200 + i) = program[i]
  cleared : ∀ i, program.size ≤ i → i < 3232 → m.get (0x200 + i) = 0
  kept : ∀ a, a < 0x200 ∨ 0xe9f < a → m.get a = old.get a

theorem in_area_iff (a : Nat) :
    programStart ≤ a ∧ a < systemStart ↔ 0x200 ≤ a ∧ a < 0x200 + 3232 := Iff.rfl

theorem holds_withProgram (m : Memory) {program : Bytes} (fits : program.size ≤ 3232) :
    (m.withProgram program).Holds program m where
  written i within := by
    have place : 0x200 + i - programStart = i := Nat.add_sub_cancel_left 0x200 i
    rw [get_withProgram m fits, if_pos ((in_area_iff _).mpr (by omega)), place,
      Array.getElem?_eq_getElem within, Option.getD_some]
  cleared i past room := by
    have place : 0x200 + i - programStart = i := Nat.add_sub_cancel_left 0x200 i
    rw [get_withProgram m fits, if_pos ((in_area_iff _).mpr (by omega)), place,
      Array.getElem?_eq_none past, Option.getD_none]
  kept a outside := by
    rw [get_withProgram m fits, if_neg fun area => ?_]
    have inside := (in_area_iff a).mp area
    omega

/-- Clearing the area and writing the program to it stay inside the memory. -/
theorem clear?_write?_program (m : Memory) {program : Bytes} (fits : program.size ≤ 3232) :
    (m.clear? 0x200 3232).bind (fun cleared => cleared.write? 0x200 program) =
      some (m.withProgram program) := by
  have area : Inside 0x200 3232 := by decide
  have inside : Inside 0x200 program.size := Nat.le_trans (Nat.add_le_add_left fits 0x200) area
  rw [clear?, fill?, if_pos area, Option.bind_some, write?, if_pos inside]
  rfl

end Memory

namespace Machine

/-- Whether an operation writes to the memory directly. -/
def Operation.pokes : Operation → Bool
  | .write _ _ => true
  | .fill _ _ _ => true
  | _ => false

theorem Operation.byteAt?_of_not_pokes {op : Operation} (spares : op.pokes = false) (i : Nat) :
    op.byteAt? i = none := by
  cases op with
  | write start data => cases spares
  | fill start len b => cases spares
  | _ => rfl

/-- Below the program only direct writes change a byte. -/
theorem get_operateAll_of_not_pokes (m : Machine) {ops : List Operation}
    (spare : ∀ op ∈ ops, op.pokes = false) {i : Nat} (low : i < Memory.programStart) :
    (m.operateAll ops).memory.get i = m.memory.get i := by
  have never : ops.filterMap (Operation.byteAt? i) = [] :=
    List.filterMap_eq_nil_iff.mpr fun op here => Operation.byteAt?_of_not_pokes (spare op here) i
  rw [m.get_operateAll ops low, lastByteAt?, never]
  rfl

/-- What a load does to the memory, whatever is in it.  A program of at most 3232 bytes is accepted:
the program area then has the program and zeros, all other bytes are the old ones, and the clearing
and the writing stay inside the memory.  The machine's load does this too, and everything above the
area becomes zero.  A longer program is refused with its size and the room there is, and nothing
changes.  A reset is the load of the empty program.  The bytes below the area are changed by no
loads, resets, advances, key events and register writes in any order. -/
theorem load_fills_program_area (m : Machine) (program : Bytes) :
    (program.size ≤ 3232 →
      ∃ memory machine,
        m.memory.loadProgram program = .ok memory ∧ m.load program = .ok machine ∧
        memory.Holds program m.memory ∧
        (m.memory.clear? 0x200 3232).bind (fun cleared => cleared.write? 0x200 program) =
          some memory ∧
        (∀ a < 0xea0, machine.memory.get a = memory.get a) ∧
        ∀ a, 0xea0 ≤ a → machine.memory.get a = 0) ∧
    (3232 < program.size →
      m.memory.loadProgram program = .error ⟨program.size, 3232⟩ ∧
      m.load program = .error ⟨program.size, 3232⟩ ∧
      ∀ s : Session, s.machine = m → (s.load program).value = (.error ⟨program.size, 3232⟩, s)) ∧
    m.load #[] = .ok m.reset ∧
    ∀ ops : List Operation, (∀ op ∈ ops, op.pokes = false) →
      ∀ a < 0x200, (m.operateAll ops).memory.get a = m.memory.get a := by
  refine ⟨fun fits => ?_, fun oversized => ?_, ?_, fun ops spare a low => ?_⟩
  · refine ⟨m.memory.withProgram program, m.loaded program, m.memory.loadProgram_of_fits fits,
      m.load_of_fits fits, m.memory.holds_withProgram fits, m.memory.clear?_write?_program fits,
      fun a below => ?_, fun a above => ?_⟩
    · exact (Memory.get_clearSystemArea _ a).trans (if_pos below)
    · exact (Memory.get_clearSystemArea _ a).trans (if_neg (Nat.not_lt.mpr above))
  · exact ⟨m.memory.loadProgram_of_oversized oversized, m.load_of_oversized oversized,
      fun s _ => s.value_load_of_oversized oversized⟩
  · rw [reset_eq_loaded, load_of_fits m (Nat.zero_le _)]
  · exact m.get_operateAll_of_not_pokes spare low

/-- A short program in place of one that fills the area, which then is too long by one byte. -/
theorem load_fills_program_area_of_short_after_full :
    let m := (powerOn 7).loaded (Array.replicate 3232 0x55)
    (∃ memory machine,
      m.memory.loadProgram #[0x12, 0x00] = .ok memory ∧ m.load #[0x12, 0x00] = .ok machine ∧
      memory.get 0x200 = 0x12 ∧ memory.get 0x202 = 0 ∧ memory.get 0xe9f = 0 ∧
      memory.get 0x1ff = m.memory.get 0x1ff ∧ machine.memory.get 0xea0 = 0) ∧
    m.load (Array.replicate 3233 0x55) = .error ⟨3233, 3232⟩ ∧
    (m.operateAll [.reset, .key ⟨5⟩ .pressed, .advance 20000]).memory.get 0x050 =
      m.memory.get 0x050 := by
  intro m
  obtain ⟨accepted, _, _, _⟩ := load_fills_program_area m #[0x12, 0x00]
  obtain ⟨memory, machine, done, loaded, holds, _, _, above⟩ := accepted (by decide)
  obtain ⟨_, refused, _, kept⟩ := load_fills_program_area m (Array.replicate 3233 0x55)
  have size : (Array.replicate 3233 (0x55 : UInt8)).size = 3233 := Array.size_replicate
  obtain ⟨_, error, _⟩ := refused (by rw [size]; decide)
  rw [size] at error
  refine ⟨⟨memory, machine, done, loaded, holds.written 0 (by decide), holds.cleared 2 (by decide)
    (by decide), holds.cleared 3231 (by decide) (by decide), holds.kept 0x1ff (.inl (by decide)),
    above 0xea0 (by decide)⟩, error, ?_⟩
  exact kept _ (by simp [Operation.pokes]) 0x050 (by decide)

end Machine

end VipHost
