import VipHost.Bench
import VipHost.Proofs.Decoding
import VipHost.Proofs.KeyLines

/-!
# Registers through a dump and back

A dump of the registers is a text of six lines (`Registers.madeOf_dump`), so it is read as an entry
for each register.  Decoded one after the other the entries give back the same registers, whatever
there was before (`Registers.fields_lines`): every number fits the width of its register, and there
are sixteen general registers.

So registers can be dumped at one bench and restored at another.
-/

namespace VipHost

/-! ## Decoding -/

namespace Toml

theorem mapM_natural8 {ns : List UInt8} {nodes : List Node}
    (integers : (ns.map UInt8.toNat).Forall₂ IsInteger nodes) :
    nodes.mapM natural8 = .ok ns := by
  induction ns generalizing nodes with
  | nil =>
    cases integers
    rfl
  | cons n ns ih =>
    cases integers with
    | cons integer integers =>
      rw [List.mapM_cons, natural8_of_isInteger integer, ih integers]
      rfl

/-- A list with as many items as asked for. -/
theorem listOf_of_isList {count : Nat} {ns : Vector UInt8 count} {node : Node}
    (list : IsList (ns.toList.map UInt8.toNat) node) : listOf count natural8 node = .ok ns := by
  obtain ⟨span, nodes, rfl, integers⟩ := list
  have length : nodes.length = count := by
    rw [← integers.length_eq, List.length_map, Vector.length_toList]
  have read : (nodes.take count).mapM natural8 = .ok ns.toList := by
    rw [List.take_of_length_le (Nat.le_of_eq length), mapM_natural8 integers]
  unfold listOf
  simp only [Node.items?, read]
  exact dif_pos ns.size_toArray

end Toml

namespace Registers

theorem toNat_le_largest (n : UInt8) : n.toNat ≤ Toml.largest :=
  Nat.le_trans (Nat.le_of_lt n.toNat_lt) (by decide)

theorem toNat_le_largest16 (n : UInt16) : n.toNat ≤ Toml.largest :=
  Nat.le_trans (Nat.le_of_lt n.toNat_lt) (by decide)

theorem general_le_largest (r : Registers) :
    ∀ n ∈ r.v.toList.map UInt8.toNat, n ≤ Toml.largest := by
  intro n inside
  obtain ⟨byte, _, rfl⟩ := List.mem_map.mp inside
  exact toNat_le_largest byte

/-- The lines of a dump. -/
def lines (r : Registers) : List Toml.KeyLine := [
  ⟨"pc", Toml.numeral r.pc.toNat, rfl⟩,
  ⟨"sp", Toml.numeral r.sp.toNat, rfl⟩,
  ⟨"dt", Toml.numeral r.dt.toNat, rfl⟩,
  ⟨"st", Toml.numeral r.st.toNat, rfl⟩,
  ⟨"v", Toml.bracketed (r.v.toList.map UInt8.toNat), rfl⟩,
  ⟨"i", Toml.numeral r.i.toNat, rfl⟩]

theorem madeOf_dump (r : Registers) : Toml.MadeOf r.lines r.dump.toList := by
  have general : Text.bracketed (r.v.toList.map toString) =
      Text.bracketed ((r.v.toList.map UInt8.toNat).map toString) := by
    rw [List.map_map]
    rfl
  have digits16 (n : UInt16) : (toString n).toList = Toml.numeral n.toNat :=
    Toml.toList_toString n.toNat
  have digits8 (n : UInt8) : (toString n).toList = Toml.numeral n.toNat :=
    Toml.toList_toString n.toNat
  apply Toml.MadeOf.of_lines
  unfold dump
  simp only [general, String.toList_append, digits16, digits8, Toml.toList_bracketed, lines,
    Toml.KeyLine.text, Toml.assigned]
  simp

theorem isValue_of_mem_lines {r : Registers} {l : Toml.KeyLine} (inside : l ∈ r.lines) :
    Toml.IsValue l.value := by
  have number8 (n : UInt8) : Toml.IsValue (Toml.numeral n.toNat) :=
    ⟨_, (Toml.writtenAs_numeral (toNat_le_largest n)).value? _⟩
  have number16 (n : UInt16) : Toml.IsValue (Toml.numeral n.toNat) :=
    ⟨_, (Toml.writtenAs_numeral (toNat_le_largest16 n)).value? _⟩
  have general : Toml.IsValue (Toml.bracketed (r.v.toList.map UInt8.toNat)) := by
    obtain ⟨node, _, read⟩ := Toml.value?_bracketed r.general_le_largest (Toml.nestingLimit - 1) []
    rw [List.append_nil] at read
    exact ⟨node, read⟩
  simp only [lines, List.mem_cons, List.not_mem_nil, or_false] at inside
  obtain rfl | rfl | rfl | rfl | rfl | rfl := inside
  · exact number16 _
  · exact number8 _
  · exact number8 _
  · exact number8 _
  · exact general
  · exact number16 _

/-- Entries for all registers give the registers, whatever there was before. -/
theorem fields_lines (r before : Registers) {entries : List Toml.Entry}
    (give : r.lines.Forall₂ Toml.KeyLine.Gives entries) :
    Toml.fields field before entries = .ok r := by
  simp only [lines, List.forall₂_cons_left_iff, List.forall₂_nil_left_iff] at give
  obtain ⟨pc, _, pcGives, ⟨sp, _, spGives, ⟨dt, _, dtGives, ⟨st, _, stGives, ⟨v, _, vGives,
    ⟨i, _, iGives, rfl, rfl⟩, rfl⟩, rfl⟩, rfl⟩, rfl⟩, rfl⟩ := give
  have number8 {l : Toml.KeyLine} {e : Toml.Entry} (gives : l.Gives e) (n : UInt8)
      (same : l.value = Toml.numeral n.toNat) : Toml.atKey e Toml.natural8 = .ok n :=
    Toml.atKey_of_ok (Toml.natural8_of_isInteger (gives.isInteger (toNat_le_largest n) same))
  have number16 {l : Toml.KeyLine} {e : Toml.Entry} (gives : l.Gives e) (n : UInt16)
      (same : l.value = Toml.numeral n.toNat) : Toml.atKey e Toml.natural16 = .ok n :=
    Toml.atKey_of_ok (Toml.natural16_of_isInteger (gives.isInteger (toNat_le_largest16 n) same))
  have general := Toml.atKey_of_ok (Toml.listOf_of_isList (vGives.isList r.general_le_largest rfl))
  simp only [Toml.fields, List.foldlM_cons, List.foldlM_nil, field, pcGives.1, spGives.1, dtGives.1,
    stGives.1, vGives.1, iGives.1, number16 pcGives _ rfl, number8 spGives _ rfl,
    number8 dtGives _ rfl, number8 stGives _ rfl, general, number16 iGives _ rfl]
  rfl

/-- A dump is read back as the registers. -/
theorem ofText_dump (r : Registers) : ofText r.dump = .ok r := by
  have distinct : (r.lines.map (·.key)).Nodup := by
    show ["pc", "sp", "dt", "st", "v", "i"].Nodup
    decide
  obtain ⟨entries, give, read⟩ :=
    Toml.document?_madeOf r.madeOf_dump fun _ inside => isValue_of_mem_lines inside
  rw [if_pos distinct] at read
  rw [ofText, Toml.decodeText, read]
  dsimp only
  rw [fields_lines r {} give]
  rfl

/-- Different registers have different dumps. -/
theorem dump_inj {r r' : Registers} : r.dump = r'.dump ↔ r = r' := by
  constructor
  · intro same
    have read := r.ofText_dump
    rw [same, ofText_dump] at read
    exact (Except.ok.inj read).symm
  · intro same
    rw [same]

end Registers

namespace Bench

/-- The bench with other registers, and nothing else changed. -/
def withRegisters (b : Bench) (registers : Registers) : Bench :=
  let session := b.host.session
  b.withSession { session with machine := { session.machine with registers } }

/-- Registers written at one bench, dumped there and restored at another are the same again, and
nothing else changes at either bench.  So equal dumps are of equal registers. -/
theorem registers_survive_dump_and_restore (r : Registers) (b b' : Bench) :
    (b.answer (.writeRegisters r)).value = (.nothing, b.withRegisters r) ∧
    ((b.withRegisters r).answer .dumpRegisters).value = (.text r.dump, b.withRegisters r) ∧
    (b'.answer (.writeSnapshot r.dump)).value = (.registers r, b'.withRegisters r) ∧
    (b'.withRegisters r).host.registers = r ∧
    ∀ r' : Registers, r.dump = r'.dump ↔ r = r' := by
  refine ⟨rfl, rfl, ?_, rfl, fun r' => Registers.dump_inj⟩
  have written : (b'.host.writeSnapshot r.dump).value = (.ok r, (b'.withRegisters r).host) := by
    rw [Host.writeSnapshot, Registers.ofText_dump]
    rfl
  simp only [answer, Logged.value_bind, written]
  rfl

end Bench

end VipHost
