import VipHost.Proofs.Numerals
import VipHost.Toml.Decode

/-!
# Decoding entries

A value that fits is decoded wherever it is asked for, and one entry that never fits is enough for a
document to be refused (`fields_of_mem`).
-/

namespace VipHost.Toml

/-! ## One value -/

theorem atKey_of_ok {α : Type} {e : Entry} {decode : Decoder α} {x : α}
    (fits : decode e.2 = .ok x) : atKey e decode = .ok x := by
  rw [atKey, fits]
  rfl

theorem atKey_of_error {α : Type} {e : Entry} {decode : Decoder α}
    (refused : ∃ p, decode e.2 = .error p) : ∃ p, atKey e decode = .error p := by
  obtain ⟨p, refused⟩ := refused
  rw [atKey, refused]
  exact ⟨_, rfl⟩

theorem atKey_map {α β γ : Type} (e : Entry) (decode : Decoder α) (f : α → β) (g : β → γ) :
    (atKey e fun n => (decode n).map f).map g = (atKey e decode).map fun a => g (f a) := by
  unfold atKey
  dsimp only
  cases decode e.2 <;> rfl

theorem natural_of_isInteger {n bound : Nat} {node : Node} (integer : IsInteger n node)
    (inside : n < bound) (expected : String) : natural expected bound node = .ok n := by
  obtain ⟨span, rfl⟩ := integer
  have inRange : 0 ≤ (n : Int) ∧ (n : Int) < bound := by omega
  rw [natural, if_pos inRange, Int.toNat_natCast]

theorem natural64_of_isInteger {n : UInt64} {node : Node} (integer : IsInteger n.toNat node) :
    natural64 node = .ok n := by
  rw [natural64, natural_of_isInteger integer n.toNat_lt, Except.map, UInt64.ofNat_toNat]

theorem natural16_of_isInteger {n : UInt16} {node : Node} (integer : IsInteger n.toNat node) :
    natural16 node = .ok n := by
  rw [natural16, natural_of_isInteger integer n.toNat_lt, Except.map, UInt16.ofNat_toNat]

theorem natural8_of_isInteger {n : UInt8} {node : Node} (integer : IsInteger n.toNat node) :
    natural8 node = .ok n := by
  rw [natural8, natural_of_isInteger integer n.toNat_lt, Except.map, UInt8.ofNat_toNat]

/-! ## All entries -/

/-- A document is refused for one entry that is refused whatever came before it. -/
theorem fields_of_mem {α : Type} {field : α → Entry → Except Problem α} {e : Entry}
    {entries : List Entry} (inside : e ∈ entries) (refused : ∀ a, ∃ p, field a e = .error p)
    (initial : α) : ∃ p, fields field initial entries = .error p := by
  induction entries generalizing initial with
  | nil => cases inside
  | cons first entries ih =>
    rw [fields, List.foldlM_cons]
    cases read : field initial first with
    | error p => exact ⟨p, rfl⟩
    | ok a =>
      obtain rfl | inside := List.mem_cons.mp inside
      · obtain ⟨p, error⟩ := refused initial
        rw [read] at error
        cases error
      · exact ih inside a

end VipHost.Toml
