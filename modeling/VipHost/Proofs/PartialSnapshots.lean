import VipHost.Proofs.DistinctKeys
import VipHost.Proofs.RegisterDumps

/-!
# Snapshots that leave registers out

A snapshot may have entries for some of the registers, in any order and between other entries.  A
decoder accepts exactly the values that mean numbers of its width (`Toml.Decodes`).  So an entry
with the key of a register either gives the register what its value means and keeps the others, or
is refused with a problem at that key; other entries are passed by (`Registers.field_cases`).

No key comes twice, so what an entry gave is there at the end (`Registers.Follows.cons`).  All the
rest is zero, as the registers are decoded from nothing and not from those of the machine.
-/

namespace VipHost

/-! ## Decoding numbers -/

namespace Toml

/-- A value is a number below a bound. -/
def IsNatural (bound n : Nat) (node : Node) : Prop := n < bound ∧ IsInteger n node

/-- What a value means that is one number. -/
def MeansNatural (bound : Nat) (node : Node) (ns : List Nat) : Prop :=
  ∃ n, ns = [n] ∧ IsNatural bound n node

/-- What a list means that begins with as many numbers as asked for. -/
def MeansNaturals (count bound : Nat) (node : Node) (ns : List Nat) : Prop :=
  ∃ items, node.items? = some items ∧ count ≤ items.length ∧
    ns.Forall₂ (IsNatural bound) (items.take count)

theorem IsNatural.unique {bound n m : Nat} {node : Node} (first : IsNatural bound n node)
    (second : IsNatural bound m node) : n = m := by
  obtain ⟨_, span, rfl⟩ := first
  obtain ⟨_, span', same⟩ := second
  simp only [Node.scalar.injEq, Scalar.integer.injEq] at same
  omega

theorem MeansNatural.unique {bound : Nat} {node : Node} {ns ms : List Nat}
    (first : MeansNatural bound node ns) (second : MeansNatural bound node ms) : ns = ms := by
  obtain ⟨n, rfl, natural⟩ := first
  obtain ⟨m, rfl, natural'⟩ := second
  rw [natural.unique natural']

/-- A decoder accepts exactly the values that mean something, and gives what they mean.  Its
problems are not inside a table. -/
structure Decodes {α : Type} (decode : Decoder α) (numbers : α → List Nat)
    (Means : Node → List Nat → Prop) : Prop where
  reads : ∀ node, (∃ x, decode node = .ok x ∧ Means node (numbers x)) ∨
    ∃ problem, decode node = .error problem ∧ problem.keys = []
  accepts : ∀ {node ns}, Means node ns → ∃ x, decode node = .ok x

theorem natural_reads (expected : String) (bound : Nat) (node : Node) :
    (∃ n, natural expected bound node = .ok n ∧ IsNatural bound n node) ∨
      ∃ problem, natural expected bound node = .error problem ∧ problem.keys = [] := by
  unfold natural
  split
  next span i =>
    split
    next inRange =>
      refine .inl ⟨i.toNat, rfl, by omega, span, ?_⟩
      rw [Int.toNat_of_nonneg inRange.1]
    next => exact .inr ⟨_, rfl, rfl⟩
  next => exact .inr ⟨_, rfl, rfl⟩

/-- Naturals of any width. -/
theorem natural_decodes {α : Type} (expected : String) {bound : Nat} {ofNat : Nat → α}
    {toNat : α → Nat} (wide : ∀ {n}, n < bound → toNat (ofNat n) = n) :
    Decodes (fun node => (natural expected bound node).map ofNat) (fun x => [toNat x])
      (MeansNatural bound) where
  reads node := by
    obtain ⟨n, read, small⟩ | ⟨problem, refused, keyless⟩ := natural_reads expected bound node
    · rw [read]
      exact .inl ⟨ofNat n, rfl, n, by rw [wide small.1], small⟩
    · rw [refused]
      exact .inr ⟨problem, rfl, keyless⟩
  accepts := by
    rintro node _ ⟨n, rfl, small, integer⟩
    rw [natural_of_isInteger integer small]
    exact ⟨ofNat n, rfl⟩

theorem natural16_decodes : Decodes natural16 (fun n => [n.toNat]) (MeansNatural 65536) :=
  natural_decodes "u16" UInt16.toNat_ofNat_of_lt

theorem natural8_decodes : Decodes natural8 (fun n => [n.toNat]) (MeansNatural 256) :=
  natural_decodes "u8" UInt8.toNat_ofNat_of_lt

section

variable {α : Type} {item : Decoder α} {toNat : α → Nat} {bound : Nat}
  (decodes : Decodes item (fun x => [toNat x]) (MeansNatural bound))
include decodes

/-- Items are decoded one after the other, up to the first that is refused. -/
theorem mapM_reads (nodes : List Node) :
    (∃ xs, nodes.mapM item = .ok xs ∧ (xs.map toNat).Forall₂ (IsNatural bound) nodes) ∨
      ∃ problem, nodes.mapM item = .error problem ∧ problem.keys = [] := by
  induction nodes with
  | nil => exact .inl ⟨[], rfl, .nil⟩
  | cons node nodes ih =>
    rw [List.mapM_cons]
    obtain ⟨x, first, n, same, natural⟩ | ⟨problem, refused, keyless⟩ := decodes.reads node
    · obtain ⟨xs, left, naturals⟩ | ⟨problem, refused, keyless⟩ := ih
      · rw [first, left]
        refine .inl ⟨x :: xs, rfl, .cons ?_ naturals⟩
        rwa [(List.cons.inj same).1]
      · rw [first, refused]
        exact .inr ⟨problem, rfl, keyless⟩
    · rw [refused]
      exact .inr ⟨problem, rfl, keyless⟩

theorem mapM_accepts {nodes : List Node} {ns : List Nat}
    (naturals : ns.Forall₂ (IsNatural bound) nodes) :
    ∃ xs, nodes.mapM item = .ok xs ∧ xs.length = nodes.length := by
  induction naturals with
  | nil => exact ⟨[], rfl, rfl⟩
  | cons natural _ ih =>
    obtain ⟨x, first⟩ := decodes.accepts ⟨_, rfl, natural⟩
    obtain ⟨xs, left, length⟩ := ih
    rw [List.mapM_cons, first, left]
    exact ⟨x :: xs, rfl, congrArg (· + 1) length⟩

/-- A list is accepted if its first items are, and there are enough of them. -/
theorem listOf_decodes (count : Nat) :
    Decodes (listOf count item) (fun xs => xs.toList.map toNat) (MeansNaturals count bound) where
  reads node := by
    unfold listOf
    cases list : node.items? with
    | none => exact .inr ⟨_, rfl, rfl⟩
    | some items =>
      dsimp only
      obtain ⟨xs, read, naturals⟩ | ⟨problem, refused, keyless⟩ :=
        mapM_reads decodes (items.take count)
      · have length := naturals.length_eq
        rw [List.length_map, List.length_take] at length
        rw [read]
        -- all items taken are read, so what may be wrong is only how many there are
        by_cases all : xs.toArray.size = count
        · have enough : count ≤ items.length := by
            rw [List.size_toArray] at all
            omega
          exact .inl ⟨⟨xs.toArray, all⟩, dif_pos all, items, list, enough, naturals⟩
        · exact .inr ⟨_, dif_neg all, rfl⟩
      · rw [refused]
        exact .inr ⟨_, rfl, keyless⟩
  accepts := by
    rintro node ns ⟨items, list, enough, naturals⟩
    obtain ⟨xs, read, length⟩ := mapM_accepts decodes naturals
    have all : xs.toArray.size = count := by
      rw [List.size_toArray, length, List.length_take, Nat.min_eq_left enough]
    refine ⟨⟨xs.toArray, all⟩, ?_⟩
    unfold listOf
    simp only [list, read]
    exact dif_pos all

end

end Toml

/-! ## One register -/

/-- A register, or the general registers together. -/
inductive Register where
  | pc
  | sp
  | dt
  | st
  | v
  | i
deriving DecidableEq

namespace Register

/-- The key of a register in a snapshot. -/
def key : Register → String
  | pc => "pc"
  | sp => "sp"
  | dt => "dt"
  | st => "st"
  | v => "v"
  | i => "i"

theorem key_inj {register other : Register} : register.key = other.key ↔ register = other := by
  cases register <;> cases other <;> simp [key]

/-- What a value in a snapshot means for a register. -/
def Means : Register → Toml.Node → List Nat → Prop
  | pc | i => Toml.MeansNatural 65536
  | sp | dt | st => Toml.MeansNatural 256
  | v => Toml.MeansNaturals 16 256

/-- A value means something for a register. -/
def Fits (register : Register) (node : Toml.Node) : Prop := ∃ ns, register.Means node ns

end Register

namespace Registers

/-- What is in a register. -/
def numbers (r : Registers) : Register → List Nat
  | .pc => [r.pc.toNat]
  | .sp => [r.sp.toNat]
  | .dt => [r.dt.toNat]
  | .st => [r.st.toNat]
  | .v => r.v.toList.map UInt8.toNat
  | .i => [r.i.toNat]

/-- After some entries every register has what its entry means, or is as before if it has none. -/
structure Follows (before after : Registers) (entries : List Toml.Entry) : Prop where
  means : ∀ register : Register, ∀ e ∈ entries, e.1.name = register.key →
    register.Means e.2 (after.numbers register)
  kept : ∀ register : Register, (∀ e ∈ entries, e.1.name ≠ register.key) →
    after.numbers register = before.numbers register

/-- A problem is at an entry of a register, whose value means nothing for it. -/
def Blames (entries : List Toml.Entry) (problem : Toml.Problem) : Prop :=
  ∃ register : Register, problem.keys = [register.key] ∧
    ∃ e ∈ entries, e.1.name = register.key ∧ ¬ register.Fits e.2

/-! ## One entry -/

theorem field_of_decodes {before : Registers} {e : Toml.Entry} (register : Register)
    (named : e.1.name = register.key) {α : Type} {decode : Toml.Decoder α} {numbers : α → List Nat}
    (decodes : Toml.Decodes decode numbers register.Means) {set : α → Registers}
    (written : ∀ x, (set x).numbers register = numbers x)
    (kept : ∀ x, ∀ other ≠ register, (set x).numbers other = before.numbers other) :
    (∃ after, (Toml.atKey e decode).map set = .ok after ∧ Follows before after [e]) ∨
      ∃ problem, (Toml.atKey e decode).map set = .error problem ∧ Blames [e] problem := by
  obtain ⟨x, read, means⟩ | ⟨problem, refused, keyless⟩ := decodes.reads e.2
  · rw [Toml.atKey_of_ok read]
    refine .inl ⟨set x, rfl, ?_, ?_⟩
    · intro register' e' inside named'
      cases List.mem_singleton.mp inside
      cases Register.key_inj.mp (named.symm.trans named')
      rwa [written]
    · intro other absent
      refine kept x other fun same => ?_
      exact absent e (List.mem_singleton_self e) (same ▸ named)
  · have misfit : ¬ register.Fits e.2 := by
      rintro ⟨ns, means⟩
      obtain ⟨x, accepted⟩ := decodes.accepts means
      cases refused.symm.trans accepted
    rw [Toml.atKey, refused]
    refine .inr ⟨_, rfl, register, ?_, e, List.mem_singleton_self e, named, misfit⟩
    show e.1.name :: problem.keys = [register.key]
    rw [named, keyless]

/-- An entry has to do with one register at most. -/
theorem field_cases (before : Registers) (e : Toml.Entry) :
    (∃ after, before.field e = .ok after ∧ Follows before after [e]) ∨
      ∃ problem, before.field e = .error problem ∧ Blames [e] problem := by
  unfold field
  split
  next named =>
    refine field_of_decodes .pc named Toml.natural16_decodes (fun _ => rfl) ?_
    rintro x ⟨⟩ other <;> first | rfl | exact absurd rfl other
  next named =>
    refine field_of_decodes .sp named Toml.natural8_decodes (fun _ => rfl) ?_
    rintro x ⟨⟩ other <;> first | rfl | exact absurd rfl other
  next named =>
    refine field_of_decodes .dt named Toml.natural8_decodes (fun _ => rfl) ?_
    rintro x ⟨⟩ other <;> first | rfl | exact absurd rfl other
  next named =>
    refine field_of_decodes .st named Toml.natural8_decodes (fun _ => rfl) ?_
    rintro x ⟨⟩ other <;> first | rfl | exact absurd rfl other
  next named =>
    refine field_of_decodes .v named (Toml.listOf_decodes Toml.natural8_decodes 16)
      (fun _ => rfl) ?_
    rintro x ⟨⟩ other <;> first | rfl | exact absurd rfl other
  next named =>
    refine field_of_decodes .i named Toml.natural16_decodes (fun _ => rfl) ?_
    rintro x ⟨⟩ other <;> first | rfl | exact absurd rfl other
  next noPc noSp noDt noSt noV noI =>
    refine .inl ⟨before, rfl, ?_, fun _ _ => rfl⟩
    rintro register e' inside named
    cases List.mem_singleton.mp inside
    cases register with
    | pc => exact absurd named noPc
    | sp => exact absurd named noSp
    | dt => exact absurd named noDt
    | st => exact absurd named noSt
    | v => exact absurd named noV
    | i => exact absurd named noI

/-! ## All entries -/

/-- What an entry gave to a register is not taken back by others, as their keys are different. -/
theorem Follows.cons {before middle after : Registers} {e : Toml.Entry} {entries : List Toml.Entry}
    (distinct : Toml.Distinct (e :: entries)) (first : Follows before middle [e])
    (left : Follows middle after entries) : Follows before after (e :: entries) := by
  obtain ⟨new, _⟩ := Toml.distinct_cons.mp distinct
  constructor
  · intro register e' inside named
    rcases List.mem_cons.mp inside with rfl | inside
    · -- no later entry has this key, so the register is as this entry left it
      rw [left.kept register fun other inside => named ▸ new other inside]
      exact first.means register e' (List.mem_singleton_self e') named
    · exact left.means register e' inside named
  · intro register absent
    rw [left.kept register fun other inside => absent other (List.mem_cons_of_mem e inside)]
    refine first.kept register fun e' inside => ?_
    cases List.mem_singleton.mp inside
    exact absent e (List.mem_cons_self ..)

theorem Blames.mono {some all : List Toml.Entry} {problem : Toml.Problem}
    (blames : Blames some problem) (more : some ⊆ all) : Blames all problem := by
  obtain ⟨register, place, e, inside, misfit⟩ := blames
  exact ⟨register, place, e, more inside, misfit⟩

/-- The entries are decoded one after the other, up to the first that is refused. -/
theorem fields_cases (before : Registers) {entries : List Toml.Entry}
    (distinct : Toml.Distinct entries) :
    (∃ after, Toml.fields field before entries = .ok after ∧ Follows before after entries) ∨
      ∃ problem, Toml.fields field before entries = .error problem ∧ Blames entries problem := by
  induction entries generalizing before with
  | nil => exact .inl ⟨before, rfl, fun _ _ none => (List.not_mem_nil none).elim, fun _ _ => rfl⟩
  | cons e entries ih =>
    rw [Toml.fields, List.foldlM_cons]
    obtain ⟨middle, read, first⟩ | ⟨problem, refused, blames⟩ := before.field_cases e
    · rw [read]
      obtain ⟨after, read, left⟩ | ⟨problem, refused, blames⟩ :=
        ih middle (Toml.distinct_cons.mp distinct).2
      · exact .inl ⟨after, read, first.cons distinct left⟩
      · exact .inr ⟨problem, refused, blames.mono (List.subset_cons_self e entries)⟩
    · rw [refused]
      exact .inr ⟨problem, rfl, blames.mono (by simp)⟩

theorem numbers_default (register : Register) : ∀ n ∈ ({} : Registers).numbers register, n = 0 := by
  cases register <;> simp [numbers]

/-- A snapshot is read from nothing. -/
theorem ofText_cases {text : String} {entries : List Toml.Entry}
    (valid : Toml.document? text = some entries) :
    (∃ r : Registers, ofText text = .ok r ∧ Follows {} r entries) ∨
      ∃ problem, ofText text = .error (.misfit text problem) ∧ Blames entries problem := by
  rw [ofText, Toml.decodeText, valid]
  dsimp only
  obtain ⟨r, read, follows⟩ | ⟨problem, refused, blames⟩ :=
    fields_cases {} (Toml.document?_distinct valid)
  · rw [read]
    exact .inl ⟨r, rfl, follows⟩
  · rw [refused]
    exact .inr ⟨problem, rfl, blames⟩

end Registers

/-! ## At a bench -/

namespace Bench

theorem value_writeSnapshot_of_ok {text : String} {r : Registers}
    (read : Registers.ofText text = .ok r) (b : Bench) :
    (b.answer (.writeSnapshot text)).value = (.registers r, b.withRegisters r) := by
  have written : (b.host.writeSnapshot text).value = (.ok r, (b.withRegisters r).host) := by
    rw [Host.writeSnapshot, read]
    rfl
  simp only [answer, Logged.value_bind, written]
  rfl

theorem value_writeSnapshot_of_error {text : String} {e : Toml.Error}
    (refused : Registers.ofText text = .error e) (b : Bench) :
    (b.answer (.writeSnapshot text)).value = (.failed (.registers e), b) := by
  have kept : (b.host.writeSnapshot text).value = (.error (.registers e), b.host) := by
    rw [Host.writeSnapshot, refused]
    rfl
  simp only [answer, Logged.value_bind, kept]
  rfl

/-- If every value fits its register, a snapshot gives the registers it has entries for exactly
what their values mean, and the others become zero, whatever there was before; nothing else
changes.  If some value does not, the snapshot is refused for such a value, and nothing changes at
all. -/
theorem partial_snapshot_written_or_refused {text : String} {entries : List Toml.Entry}
    (valid : Toml.document? text = some entries) :
    ((∀ register : Register, ∀ e ∈ entries, e.1.name = register.key → register.Fits e.2) →
      ∃ r : Registers,
        (∀ register : Register, ∀ e ∈ entries, e.1.name = register.key →
          register.Means e.2 (r.numbers register)) ∧
        (∀ register : Register, (∀ e ∈ entries, e.1.name ≠ register.key) →
          ∀ n ∈ r.numbers register, n = 0) ∧
        ∀ b : Bench, (b.answer (.writeSnapshot text)).value = (.registers r, b.withRegisters r)) ∧
    ((∃ register : Register, ∃ e ∈ entries, e.1.name = register.key ∧ ¬ register.Fits e.2) →
      ∃ problem, Registers.Blames entries problem ∧
        ∀ b : Bench, (b.answer (.writeSnapshot text)).value =
          (.failed (.registers (.misfit text problem)), b)) := by
  obtain ⟨r, read, follows⟩ | ⟨problem, refused, blames⟩ := Registers.ofText_cases valid
  · constructor
    · intro _
      refine ⟨r, follows.means, fun register absent => ?_, value_writeSnapshot_of_ok read⟩
      rw [follows.kept register absent]
      exact Registers.numbers_default register
    · rintro ⟨register, e, inside, named, misfit⟩
      exact absurd ⟨_, follows.means register e inside named⟩ misfit
  · constructor
    · intro fits
      obtain ⟨register, _, e, inside, named, misfit⟩ := blames
      exact absurd (fits register e inside named) misfit
    · intro _
      exact ⟨problem, blames, value_writeSnapshot_of_error refused⟩

/-- Registers left out and in another order, with a key of no register between them; and a number
too large by one behind a register that fits. -/
theorem partial_snapshot_written_or_refused_of_unknown_key :
    let b := (default : Bench).withRegisters { st := 9, v := Vector.replicate 16 0xaa }
    let sound := "i = 0x300\nspeed = 999\nst = 255\n"
    let unsound := "pc = 0x210\nsp = 256\n"
    (∃ r : Registers, r.numbers .i = [0x300] ∧ r.numbers .st = [255] ∧ (∀ n ∈ r.numbers .v, n = 0) ∧
      (b.answer (.writeSnapshot sound)).value = (.registers r, b.withRegisters r)) ∧
    ∃ problem, problem.keys = ["sp"] ∧ (b.answer (.writeSnapshot unsound)).value =
      (.failed (.registers (.misfit unsound problem)), b) := by
  intro b sound unsound
  constructor
  · let index : Toml.KeyLine := ⟨"i", ['0', 'x', '3', '0', '0'], rfl⟩
    let other : Toml.KeyLine := ⟨"speed", ['9', '9', '9'], rfl⟩
    let timer : Toml.KeyLine := ⟨"st", ['2', '5', '5'], rfl⟩
    have made : Toml.MadeOf [index, other, timer] sound.toList := .of_lines (by decide +kernel)
    obtain ⟨entries, give, valid⟩ := Toml.document?_madeOf made (by decide +kernel)
    rw [if_pos (by decide)] at valid
    have noGeneral : Register.v.key ∉ entries.map (·.1.name) := by
      rw [Toml.names_of_gives give]
      decide
    simp only [List.forall₂_cons_left_iff, List.forall₂_nil_left_iff] at give
    obtain ⟨eIndex, _, indexGives, ⟨eOther, _, otherGives, ⟨eTimer, _, timerGives, rfl, rfl⟩, rfl⟩,
      rfl⟩ := give
    have indexMeans : Register.i.Means eIndex.2 [0x300] := by
      have digits : Toml.Grouped Toml.isHexDigit ['3', '0', '0'] ['3', '0', '0'] :=
        .next rfl (.next rfl (.one rfl))
      exact ⟨0x300, rfl, by decide, indexGives.scalar (.integer (.hexadecimal digits) (by decide))⟩
    have timerMeans : Register.st.Means eTimer.2 [255] :=
      ⟨255, rfl, by decide, timerGives.isInteger (by decide) (by decide)⟩
    have fits : ∀ register : Register, ∀ e ∈ [eIndex, eOther, eTimer],
        e.1.name = register.key → register.Fits e.2 := by
      intro register e inside named
      obtain rfl | rfl | rfl : e = eIndex ∨ e = eOther ∨ e = eTimer := by simpa using inside
      · cases Register.key_inj.mp (show Register.i.key = _ from indexGives.1.symm.trans named)
        exact ⟨_, indexMeans⟩
      · exact absurd (otherGives.1.symm.trans named) (by cases register <;> decide)
      · cases Register.key_inj.mp (show Register.st.key = _ from timerGives.1.symm.trans named)
        exact ⟨_, timerMeans⟩
    obtain ⟨r, means, zero, written⟩ := (partial_snapshot_written_or_refused valid).1 fits
    refine ⟨r, ?_, ?_, zero .v fun e inside same => ?_, written b⟩
    · exact (means .i eIndex (by simp) indexGives.1).unique indexMeans
    · exact (means .st eTimer (by simp) timerGives.1).unique timerMeans
    · exact noGeneral (List.mem_map.mpr ⟨e, inside, same⟩)
  · let counter : Toml.KeyLine := ⟨"pc", ['0', 'x', '2', '1', '0'], rfl⟩
    let stack : Toml.KeyLine := ⟨"sp", ['2', '5', '6'], rfl⟩
    have made : Toml.MadeOf [counter, stack] unsound.toList := .of_lines (by decide +kernel)
    obtain ⟨entries, give, valid⟩ := Toml.document?_madeOf made (by decide +kernel)
    rw [if_pos (by decide)] at valid
    simp only [List.forall₂_cons_left_iff, List.forall₂_nil_left_iff] at give
    obtain ⟨eCounter, _, counterGives, ⟨eStack, _, stackGives, rfl, rfl⟩, rfl⟩ := give
    have misfit : ¬ Register.sp.Fits eStack.2 := by
      rintro ⟨_, n, _, small, span, here⟩
      obtain ⟨span', there⟩ := stackGives.isInteger (n := 256) (by decide) (by decide)
      have same : (n : Int) = (256 : Nat) :=
        Toml.Scalar.integer.inj (Toml.Node.scalar.inj (here.symm.trans there)).2
      omega
    obtain ⟨problem, blames, refused⟩ := (partial_snapshot_written_or_refused valid).2
      ⟨.sp, eStack, by simp, stackGives.1, misfit⟩
    refine ⟨problem, ?_, refused b⟩
    obtain ⟨register, place, e, inside, named, unfit⟩ := blames
    rw [place]
    obtain rfl | rfl : e = eCounter ∨ e = eStack := by simpa using inside
    · cases Register.key_inj.mp (show Register.pc.key = _ from counterGives.1.symm.trans named)
      have digits : Toml.Grouped Toml.isHexDigit ['2', '1', '0'] ['2', '1', '0'] :=
        .next rfl (.next rfl (.one rfl))
      have fits := counterGives.scalar (.integer (.hexadecimal digits) (by decide))
      exact absurd ⟨_, 0x210, rfl, by decide, fits⟩ unfit
    · cases Register.key_inj.mp (show Register.sp.key = _ from stackGives.1.symm.trans named)
      rfl

end Bench

end VipHost
