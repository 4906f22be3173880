import VipHost.Proofs.Loading

/-!
# How far a reset goes back

A reset clears the program and all that is above it, and sets the rest of the machine to what
it was at first.  It never looks at the 512 bytes below the program, where the font is
(`Machine.get_reset`).  Nor does anything else that is done to a machine, a direct write to the
memory apart: after any operations each of these bytes is the one last written there, or the
first one if none was (`Machine.get_operateAll`).

So a reset machine is as after switching on exactly if the last byte written to each address
below the program is the byte that was there at first.
-/

namespace VipHost

/-! ## Memory -/

namespace Memory

theorem get_initial (i : Nat) :
    initial.get i = if fontStart ≤ i then font[i - fontStart]?.getD 0 else 0 := by
  have zeros : (Memory.mk (Vector.replicate 4096 0)).get i = 0 := by
    simp only [get, Vector.getElem?_replicate]
    split <;> rfl
  have start : fontStart = 0x050 := rfl
  have all : size = 4096 := rfl
  have shapes : font.size = 80 := rfl
  rw [initial, get_overwrite, zeros]
  by_cases reached : fontStart ≤ i
  · rw [if_pos reached]
    by_cases within : i < fontStart + font.size
    · rw [if_pos (by omega)]
    · rw [if_neg (by omega), Array.getElem?_eq_none (by omega)]
      rfl
  · rw [if_neg reached, if_neg (by omega)]

/-- Before anything is loaded there are zeros from the start of the program on. -/
theorem get_initial_of_le {i : Nat} (above : programStart ≤ i) : initial.get i = 0 := by
  have start : programStart = 0x200 := rfl
  have below : fontStart = 0x050 := rfl
  have shapes : font.size = 80 := rfl
  rw [get_initial, if_pos (by omega), Array.getElem?_eq_none (by omega)]
  rfl

/-- A write sets the bytes of its range and no others. -/
theorem get_written (m : Memory) {start : Nat} {data : Bytes} (inside : Inside start data.size)
    (i : Nat) :
    ((m.write? start data).getD m).get i =
      if start ≤ i then data[i - start]?.getD (m.get i) else m.get i := by
  have ends : start + data.size ≤ size := inside
  rw [write?, if_pos inside, Option.getD_some, get_overwrite]
  by_cases reached : start ≤ i
  · rw [if_pos reached]
    by_cases within : i - start < data.size
    · rw [if_pos ⟨by omega, reached, by omega⟩, Array.getElem?_eq_getElem within]
      rfl
    · rw [if_neg (by omega), Array.getElem?_eq_none (Nat.not_lt.mp within)]
      rfl
  · rw [if_neg reached, if_neg (by omega)]

/-- A fill sets the bytes of its range and no others. -/
theorem get_filled (m : Memory) {start len : Nat} (inside : Inside start len) (b : UInt8)
    (i : Nat) :
    ((m.fill? start len b).getD m).get i =
      if start ≤ i ∧ i < start + len then b else m.get i := by
  have ends : start + len ≤ size := inside
  rw [fill?, if_pos inside, Option.getD_some, get_overwrite]
  by_cases reached : start ≤ i ∧ i < start + len
  · rw [if_pos reached, if_pos ⟨by omega, reached⟩]
  · rw [if_neg reached, if_neg fun all => reached all.2]

end Memory

namespace Machine

/-! ## Operations -/

/-- What can be done to a machine.  Writes and fills are those of an interpreter, at any
address. -/
inductive Operation where
  | load (program : Bytes)
  | reset
  | advance (elapsed : UInt64)
  | key (k : Key) (state : KeyState)
  | registers (r : Registers)
  | write (start : Nat) (data : Bytes)
  | fill (start len : Nat) (b : UInt8)

/-- The machine after an operation.  A program that does not fit and a write outside the memory
leave it as it was. -/
def operate (m : Machine) : Operation → Machine
  | .load program =>
    match m.load program with
    | .ok loaded => loaded
    | .error _ => m
  | .reset => m.reset
  | .advance elapsed => m.advance elapsed
  | .key k state => (m.keyEvent k state).value
  | .registers r => m.setRegisters r
  | .write start data => { m with memory := (m.memory.write? start data).getD m.memory }
  | .fill start len b => { m with memory := (m.memory.fill? start len b).getD m.memory }

/-- The machine after some operations. -/
def operateAll : Machine → List Operation → Machine
  | m, [] => m
  | m, op :: ops => (m.operate op).operateAll ops

@[simp] theorem operateAll_nil (m : Machine) : m.operateAll [] = m := rfl

@[simp] theorem operateAll_cons (m : Machine) (op : Operation) (ops : List Operation) :
    m.operateAll (op :: ops) = (m.operate op).operateAll ops := rfl

/-- The byte that an operation writes directly to an address. -/
def Operation.byteAt? (i : Nat) : Operation → Option UInt8
  | .write start data =>
    if Memory.Inside start data.size ∧ start ≤ i then data[i - start]? else none
  | .fill start len b =>
    if Memory.Inside start len ∧ start ≤ i ∧ i < start + len then some b else none
  | _ => none

/-- The last byte that some operations write directly to an address. -/
def lastByteAt? (i : Nat) (ops : List Operation) : Option UInt8 :=
  (ops.filterMap (Operation.byteAt? i)).getLast?

theorem lastByteAt?_cons (i : Nat) (op : Operation) (ops : List Operation) :
    lastByteAt? i (op :: ops) = (lastByteAt? i ops).or (op.byteAt? i) := by
  rw [lastByteAt?, lastByteAt?]
  cases here : op.byteAt? i with
  | none => rw [List.filterMap_cons_none here, Option.or_none]
  | some b =>
    rw [List.filterMap_cons_some here, List.getLast?_cons]
    cases (ops.filterMap (Operation.byteAt? i)).getLast? <;> rfl

/-! ## What the operations keep -/

theorem seed_operate (m : Machine) (op : Operation) : (m.operate op).seed = m.seed := by
  cases op with
  | load program =>
    by_cases oversized : Memory.programCapacity < program.size
    · rw [operate, load_of_oversized m oversized]
    · rw [operate, load_of_fits m (Nat.not_lt.mp oversized)]
      exact m.seed_loaded program
  | reset =>
    rw [operate, reset_eq_loaded]
    exact m.seed_loaded #[]
  | advance elapsed => rfl
  | key k state => rfl
  | registers r => rfl
  | write start data => rfl
  | fill start len b => rfl

theorem seed_operateAll (m : Machine) (ops : List Operation) :
    (m.operateAll ops).seed = m.seed := by
  induction ops generalizing m with
  | nil => rfl
  | cons op ops ih => rw [operateAll_cons, ih, seed_operate]

/-- Below the program an operation changes what it writes directly and nothing else. -/
theorem get_operate (m : Machine) (op : Operation) {i : Nat} (low : i < Memory.programStart) :
    (m.operate op).memory.get i = (op.byteAt? i).getD (m.memory.get i) := by
  cases op with
  | load program =>
    by_cases oversized : Memory.programCapacity < program.size
    · rw [operate, load_of_oversized m oversized]
      rfl
    · have fits := Nat.not_lt.mp oversized
      rw [operate, load_of_fits m fits]
      exact (Memory.get_loaded m.memory fits i).trans (if_pos low)
  | reset =>
    rw [operate, reset_eq_loaded]
    exact (Memory.get_loaded m.memory (Nat.zero_le _) i).trans (if_pos low)
  | advance elapsed => rfl
  | key k state => rfl
  | registers r => rfl
  | write start data =>
    rw [operate, Operation.byteAt?]
    by_cases inside : Memory.Inside start data.size
    · refine (m.memory.get_written inside i).trans ?_
      by_cases reached : start ≤ i
      · rw [if_pos reached, if_pos ⟨inside, reached⟩]
      · rw [if_neg reached, if_neg fun both => reached both.2]
        rfl
    · rw [Memory.write?, if_neg inside, if_neg fun both => inside both.1]
      rfl
  | fill start len b =>
    rw [operate, Operation.byteAt?]
    by_cases inside : Memory.Inside start len
    · refine (m.memory.get_filled inside b i).trans ?_
      by_cases reached : start ≤ i ∧ i < start + len
      · rw [if_pos reached, if_pos ⟨inside, reached⟩]
        rfl
      · rw [if_neg reached, if_neg fun all => reached all.2]
        rfl
    · rw [Memory.fill?, if_neg inside, if_neg fun all => inside all.1]
      rfl

/-- Below the program each byte is the last one written directly. -/
theorem get_operateAll (m : Machine) (ops : List Operation) {i : Nat}
    (low : i < Memory.programStart) :
    (m.operateAll ops).memory.get i = (lastByteAt? i ops).getD (m.memory.get i) := by
  induction ops generalizing m with
  | nil => rfl
  | cons op ops ih =>
    rw [operateAll_cons, ih, m.get_operate op low, lastByteAt?_cons]
    cases lastByteAt? i ops <;> rfl

/-! ## Resets -/

/-- A reset leaves the bytes below the program alone, and all others are as at first. -/
theorem get_reset (m : Machine) (i : Nat) :
    m.reset.memory.get i =
      if i < Memory.programStart then m.memory.get i else Memory.initial.get i := by
  rw [reset_eq_loaded]
  refine (Memory.get_loaded m.memory (Nat.zero_le _) i).trans ?_
  split
  next => rfl
  next above =>
    rw [Memory.get_initial_of_le (Nat.not_lt.mp above)]
    split
    next => rfl
    next => rfl

/-- But for the memory, a reset goes back to the start. -/
theorem reset_eq_of_memory (m : Machine) :
    m.reset = { powerOn m.seed with memory := m.reset.memory } := rfl

theorem reset_eq_powerOn_iff (m : Machine) :
    m.reset = powerOn m.seed ↔
      ∀ i < Memory.programStart, m.memory.get i = Memory.initial.get i := by
  constructor
  · intro same i low
    have kept : m.reset.memory.get i = m.memory.get i := (m.get_reset i).trans (if_pos low)
    rw [← kept, same]
    rfl
  · intro restored
    have memory : m.reset.memory = Memory.initial := by
      apply Memory.ext_get
      intro i _
      rw [m.get_reset i]
      split
      next low => exact restored i low
      next => rfl
    rw [m.reset_eq_of_memory, memory]
    unfold powerOn
    rfl

/-- After any operations on a machine that was just switched on, a reset goes back to the start
exactly if each address below the program that was written directly was last written its first
byte.  In any case it goes back to the start but for those bytes, which stay as written. -/
theorem reset_is_power_on_iff_low_bytes_restored (seed : UInt64) (ops : List Operation) :
    let m := (powerOn seed).operateAll ops
    (m.reset = powerOn seed ↔
      ∀ i < Memory.programStart, ∀ b, lastByteAt? i ops = some b → b = Memory.initial.get i) ∧
    m.reset = { powerOn seed with memory := m.reset.memory } ∧
    ∀ i, m.reset.memory.get i =
      if i < Memory.programStart then (lastByteAt? i ops).getD (Memory.initial.get i)
      else Memory.initial.get i := by
  intro m
  have seeded : m.seed = seed := seed_operateAll _ ops
  have low {i : Nat} (below : i < Memory.programStart) :
      m.memory.get i = (lastByteAt? i ops).getD (Memory.initial.get i) :=
    get_operateAll (powerOn seed) ops below
  refine ⟨?_, seeded ▸ m.reset_eq_of_memory, fun i => ?_⟩
  · have back : m.reset = powerOn seed ↔ _ := seeded ▸ m.reset_eq_powerOn_iff
    refine back.trans ⟨fun restored i below b last => ?_, fun restored i below => ?_⟩
    · rw [← restored i below, low below, last]
      rfl
    · rw [low below]
      cases last : lastByteAt? i ops with
      | none => rfl
      | some b => exact restored i below b last
  · rw [m.get_reset i]
    split
    next below => exact low below
    next => rfl

/-- A write over the font, undone by a later one. -/
theorem reset_is_power_on_iff_low_bytes_restored_of_font_repaired :
    let ops : List Operation := [.write 0x050 #[0x00], .load #[0x12, 0x00], .write 0x050 #[0xf0]]
    ((powerOn 42).operateAll ops).reset = powerOn 42 := by
  intro ops
  refine (reset_is_power_on_iff_low_bytes_restored 42 ops).1.mpr fun i _ b last => ?_
  rw [lastByteAt?_cons, lastByteAt?_cons, lastByteAt?_cons] at last
  by_cases font : i = 0x050
  · subst font
    rw [Memory.get_initial]
    exact (Option.some.inj last).symm
  · have untouched (value : UInt8) : (Operation.write 0x050 #[value]).byteAt? i = none := by
      rw [Operation.byteAt?]
      split
      next reached => exact Array.getElem?_eq_none (by simp; omega)
      next => rfl
    rw [untouched, untouched] at last
    cases last

/-- A byte written over the font stays there when the machine is reset. -/
theorem reset_not_power_on_of_font_overwritten :
    let m := (powerOn 0).operateAll [.write 0x050 #[0x00]]
    m.reset.memory.get 0x050 = 0x00 ∧ (powerOn 0).memory.get 0x050 = 0xf0 ∧
      m.reset ≠ powerOn 0 := by
  intro m
  have kept : m.reset.memory.get 0x050 = 0x00 := by
    rw [m.get_reset, if_pos (by decide)]
    exact get_operateAll (powerOn 0) [.write 0x050 #[0x00]] (by decide)
  have shape : (powerOn 0).memory.get 0x050 = 0xf0 := (Memory.get_initial 0x050).trans rfl
  refine ⟨kept, shape, fun same => ?_⟩
  rw [same, shape] at kept
  exact absurd kept (by decide)

end Machine

end VipHost
