import VipHost.Host

/-!
# Loading and resetting

What loading a program and resetting do, layer by layer, from the memory to the
host.  A program that fits is *loaded* (`Memory.withProgram`, `Machine.loaded`,
`Host.loaded`), one that does not is refused and nothing changes.  The memory
after a load is given byte by byte (`Memory.get_loaded`): the old bytes below
the program, the program, and zeros.  A reset is a load of the empty program
(`Machine.reset_eq_loaded`).

The ways to a program (an image, a reader, a file) end in one value: the
program itself, or the reason why there is none (`fitting`, `Source.program`,
`FileReader.program`).
-/

namespace VipHost

/-! ## Memory -/

namespace Memory

/-- The bytes below the program. -/
def low (m : Memory) : Vector UInt8 512 := Vector.ofFn fun i => m.get i.val

/-- The memory with a program in place of the old one. -/
def withProgram (m : Memory) (program : Bytes) : Memory :=
  m.clearProgram.overwrite programStart program.size fun i => program[i]?.getD 0

theorem get_eq_low (m : Memory) {i : Nat} (h : i < 512) : m.get i = m.low[i] := by
  simp [low]

theorem loadProgram_of_fits (m : Memory) {program : Bytes} (fits : program.size ≤ programCapacity) :
    m.loadProgram program = .ok (m.withProgram program) :=
  if_neg (Nat.not_lt.mpr fits)

theorem loadProgram_of_oversized (m : Memory) {program : Bytes}
    (oversized : programCapacity < program.size) :
    m.loadProgram program = .error ⟨program.size, programCapacity⟩ :=
  if_pos oversized

theorem get_clearSystemArea (m : Memory) (i : Nat) :
    m.clearSystemArea.get i = if i < systemStart then m.get i else 0 := by
  have start : systemStart = 0xea0 := rfl
  have all : size = 4096 := rfl
  rw [clearSystemArea, get_overwrite]
  by_cases below : i < systemStart
  · rw [if_pos below, if_neg (by omega)]
  · rw [if_neg below]
    by_cases inside : i < size
    · rw [if_pos (by omega)]
    · rw [if_neg (by omega)]
      exact get_of_size_le m (Nat.not_lt.mp inside)

theorem get_clearProgram (m : Memory) (i : Nat) :
    m.clearProgram.get i = if programStart ≤ i ∧ i < systemStart then 0 else m.get i := by
  have start : programStart = 0x200 := rfl
  have capacity : programCapacity = 0xca0 := rfl
  have above : systemStart = 0xea0 := rfl
  have all : size = 4096 := rfl
  rw [clearProgram, get_overwrite]
  by_cases area : programStart ≤ i ∧ i < systemStart
  · rw [if_pos area, if_pos (by omega)]
  · rw [if_neg area, if_neg (by omega)]

theorem get_withProgram (m : Memory) {program : Bytes} (fits : program.size ≤ programCapacity)
    (i : Nat) :
    (m.withProgram program).get i =
      if programStart ≤ i ∧ i < systemStart then program[i - programStart]?.getD 0
      else m.get i := by
  have start : programStart = 0x200 := rfl
  have capacity : programCapacity = 0xca0 := rfl
  have above : systemStart = 0xea0 := rfl
  have all : size = 4096 := rfl
  rw [withProgram, get_overwrite, get_clearProgram]
  by_cases area : programStart ≤ i ∧ i < systemStart
  · rw [if_pos area, if_pos area]
    by_cases written : i < programStart + program.size
    · rw [if_pos (by omega)]
    · -- what is left of a longer old program is zero
      have past : program[i - programStart]? = none := Array.getElem?_eq_none (by omega)
      rw [if_neg (by omega), past]
      rfl
  · rw [if_neg area, if_neg area, if_neg (by omega)]

/-- The memory after a load, byte by byte. -/
theorem get_loaded (m : Memory) {program : Bytes} (fits : program.size ≤ programCapacity)
    (i : Nat) :
    (m.withProgram program).clearSystemArea.get i =
      if i < programStart then m.get i
      else if i < systemStart then program[i - programStart]?.getD 0
      else 0 := by
  have order : programStart < systemStart := by decide
  rw [get_clearSystemArea, get_withProgram m fits]
  by_cases below : i < programStart
  · rw [if_pos below, if_pos (Nat.lt_trans below order), if_neg (by omega)]
  · rw [if_neg below]
    by_cases area : i < systemStart
    · rw [if_pos area, if_pos area, if_pos ⟨Nat.not_lt.mp below, area⟩]
    · rw [if_neg area, if_neg area]

/-- A load keeps the bytes below the program. -/
theorem low_loaded (m : Memory) {program : Bytes} (fits : program.size ≤ programCapacity) :
    (m.withProgram program).clearSystemArea.low = m.low := by
  apply Vector.ext
  intro i below
  rw [← get_eq_low _ below, ← get_eq_low _ below, get_loaded m fits]
  exact if_pos below

/-- What a load leaves does not depend on the old memory above `0x200`. -/
theorem loaded_eq_of_low {m m' : Memory} (same : m.low = m'.low) {program : Bytes}
    (fits : program.size ≤ programCapacity) :
    (m.withProgram program).clearSystemArea = (m'.withProgram program).clearSystemArea := by
  apply ext_get
  intro i _
  rw [get_loaded m fits, get_loaded m' fits]
  split
  next below => rw [get_eq_low m below, get_eq_low m' below, same]
  next => rfl

end Memory

/-! ## The machine -/

namespace Machine

/-- The machine with a fresh program. -/
def loaded (m : Machine) (program : Bytes) : Machine :=
  { m with memory := m.memory.withProgram program }.restart

theorem load_of_fits (m : Machine) {program : Bytes}
    (fits : program.size ≤ Memory.programCapacity) : m.load program = .ok (m.loaded program) := by
  rw [load, Memory.loadProgram_of_fits m.memory fits]
  rfl

theorem load_of_oversized (m : Machine) {program : Bytes}
    (oversized : Memory.programCapacity < program.size) :
    m.load program = .error ⟨program.size, Memory.programCapacity⟩ := by
  rw [load, Memory.loadProgram_of_oversized m.memory oversized]
  rfl

/-- A reset is a load of the empty program. -/
theorem reset_eq_loaded (m : Machine) : m.reset = m.loaded #[] := by
  have none : m.memory.clearProgram = m.memory.withProgram #[] := by
    apply Memory.ext_get
    intro i _
    rw [Memory.withProgram, Memory.get_overwrite, if_neg]
    simp only [List.size_toArray, List.length_nil]
    omega
  rw [reset, loaded, none]

/-- A loaded machine depends on the seed and the bytes below the program, and on
nothing else of the old one. -/
theorem loaded_eq_of_low {m m' : Machine} (seed : m.seed = m'.seed)
    (low : m.memory.low = m'.memory.low) {program : Bytes}
    (fits : program.size ≤ Memory.programCapacity) : m.loaded program = m'.loaded program := by
  simp only [loaded, restart, seed, Memory.loaded_eq_of_low low fits]

@[simp] theorem seed_loaded (m : Machine) (program : Bytes) :
    (m.loaded program).seed = m.seed := by
  unfold loaded restart
  rfl

@[simp] theorem keypad_loaded (m : Machine) (program : Bytes) :
    (m.loaded program).keypad = .allReleased := by
  unfold loaded restart
  rfl

@[simp] theorem timerDebt_loaded (m : Machine) (program : Bytes) :
    (m.loaded program).timerDebt = 0 := by
  unfold loaded restart
  rfl

end Machine

/-! ## Sessions -/

namespace Session

theorem value_load_of_fits (s : Session) {program : Bytes}
    (fits : program.size ≤ Memory.programCapacity) :
    (s.load program).value = (.ok (), { machine := s.machine.loaded program }) := by
  rw [load, Machine.load_of_fits s.machine fits]
  rfl

theorem value_load_of_oversized (s : Session) {program : Bytes}
    (oversized : Memory.programCapacity < program.size) :
    (s.load program).value = (.error ⟨program.size, Memory.programCapacity⟩, s) := by
  rw [load, Machine.load_of_oversized s.machine oversized]
  rfl

theorem value_reset (s : Session) : s.reset.value = { machine := s.machine.loaded #[] } := by
  rw [← Machine.reset_eq_loaded]
  rfl

end Session

/-! ## The host -/

/-- A program that fits, or that it does not. -/
def fitting (program : Bytes) : Except HostError Bytes :=
  if Memory.programCapacity < program.size then
    .error (.oversized ⟨program.size, Memory.programCapacity⟩)
  else .ok program

/-- The program a file holds, or why there is none. -/
def FileReader.program (read : FileReader) (path : String) : Except HostError Bytes :=
  match read path with
  | .error e => .error (.io e)
  | .ok program => fitting program

namespace Host

/-- The program a reader yields, or why there is none. -/
def Source.program (source : Source) : Except HostError Bytes :=
  match source.failure with
  | some e => .error (.io e)
  | none => fitting source.bytes

/-- The host with a fresh program. -/
def loaded (h : Host) (program : Bytes) : Host :=
  { h with session := { machine := h.session.machine.loaded program } }

theorem session_loaded (h : Host) (program : Bytes) :
    (h.loaded program).session = { machine := h.session.machine.loaded program } := by
  unfold loaded
  rfl

/-- The host with another program file to load again. -/
def remembering (h : Host) (path : String) : Host := { h with programPath := some path }

theorem value_load (h : Host) (program : Bytes) :
    (h.load program).value =
      match fitting program with
      | .error e => (.error e, h)
      | .ok program => (.ok (), h.loaded program) := by
  unfold fitting
  by_cases oversized : Memory.programCapacity < program.size
  · rw [if_pos oversized, load, Logged.value_bind,
      Session.value_load_of_oversized h.session oversized]
    rfl
  · rw [if_neg oversized, load, Logged.value_bind,
      Session.value_load_of_fits h.session (Nat.not_lt.mp oversized)]
    rfl

theorem value_loadFrom (h : Host) (source : Source) :
    (h.loadFrom source).value =
      match source.program with
      | .error e => (.error e, h)
      | .ok program => (.ok (), h.loaded program) := by
  unfold loadFrom Source.program
  cases source.failure with
  | none => exact value_load h source.bytes
  | some e => rfl

theorem value_loadFile (h : Host) (read : FileReader) (path : String) :
    (h.loadFile read path).value =
      match read.program path with
      | .error e => (.error e, h)
      | .ok program => (.ok (), h.loaded program) := by
  unfold loadFile FileReader.program
  cases read path with
  | error e => rfl
  | ok program => exact value_load h program

theorem value_openFile (h : Host) (read : FileReader) (path : String) :
    (h.openFile read path).value =
      match read.program path with
      | .error e => (.error e, h)
      | .ok program => (.ok (), (h.loaded program).remembering path) := by
  simp only [openFile, Logged.value_bind, value_loadFile]
  cases read.program path with
  | error e => rfl
  | ok program => rfl

theorem value_reload_none (h : Host) (read : FileReader) (path : h.programPath = none) :
    (h.reload read).value = (.ok false, h) := by
  rw [reload, path]
  rfl

theorem value_reload_some (h : Host) (read : FileReader) {path : String}
    (remembered : h.programPath = some path) :
    (h.reload read).value =
      match read.program path with
      | .error e => (.error e, h)
      | .ok program => (.ok true, h.loaded program) := by
  rw [reload, remembered]
  simp only [Logged.value_bind, value_loadFile]
  cases read.program path with
  | error e => rfl
  | ok program => rfl

theorem value_reset (h : Host) : h.reset.value = h.loaded #[] := by
  simp only [reset, Logged.value_bind, Logged.value_pure, Session.value_reset]
  rfl

end Host

end VipHost
