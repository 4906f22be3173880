import VipHost.Proofs.PowerOn

/-!
# The memory is a plain array

Seen from outside the memory is an array of 4096 bytes with checked ranges.  An *access* writes,
clears or fills a range, reads it, or reads two bytes as a number.  Its range may be anywhere.  If
the range is inside, the access is answered, and if not, it is refused and nothing changes
(`access_of_inside`, `access_of_outside`).

What an access puts at an address can be told from the access alone (`Access.put?`).  So after any
accesses each address has the byte that was last put there, or the first one if none was
(`get_accessAll`), and this is what is read.  A refused access puts nothing anywhere, so those that
come after it find what they would have found without it (`accessAll_filter`).
-/

namespace VipHost.Memory

/-! ## Accesses -/

/-- What can be asked of a memory. -/
inductive Access where
  | write (start : Nat) (data : Bytes)
  | clear (start len : Nat)
  | fill (start len : Nat) (b : UInt8)
  | read (start len : Nat)
  /-- Read two bytes as a number. -/
  | word (start : Nat)

/-- What comes of an access. -/
inductive Reply where
  | done
  | bytes (bs : List UInt8)
  | word (w : UInt16)
  | refused
deriving DecidableEq

/-- The reply to an access that changes the memory, and the memory after it. -/
def changed (m : Memory) : Option Memory → Reply × Memory
  | some after => (.done, after)
  | none => (.refused, m)

/-- The reply to an access and the memory after it. -/
def access (m : Memory) : Access → Reply × Memory
  | .write start data => m.changed (m.write? start data)
  | .clear start len => m.changed (m.clear? start len)
  | .fill start len b => m.changed (m.fill? start len b)
  | .read start len => ((m.read? start len).elim .refused .bytes, m)
  | .word start => ((m.word? start).elim .refused .word, m)

/-- The memory after some accesses. -/
def accessAll : Memory → List Access → Memory
  | m, [] => m
  | m, x :: xs => (m.access x).2.accessAll xs

@[simp] theorem accessAll_nil (m : Memory) : m.accessAll [] = m := rfl

@[simp] theorem accessAll_cons (m : Memory) (x : Access) (xs : List Access) :
    m.accessAll (x :: xs) = (m.access x).2.accessAll xs := rfl

/-! ## The array -/

namespace Access

/-- Where the range of an access starts. -/
def start : Access → Nat
  | .write start _ => start
  | .clear start _ => start
  | .fill start _ _ => start
  | .read start _ => start
  | .word start => start

/-- How many bytes the range of an access has. -/
def len : Access → Nat
  | .write _ data => data.size
  | .clear _ len => len
  | .fill _ len _ => len
  | .read _ len => len
  | .word _ => 2

/-- Whether the range of an access is inside the memory. -/
def isInside (x : Access) : Bool := x.start + x.len ≤ 4096

/-- The byte that an access has for a place in its range. -/
def byte? : Access → Nat → Option UInt8
  | .write _ data, i => data[i]?
  | .clear _ _, _ => some 0
  | .fill _ _ b, _ => some b
  | .read _ _, _ => none
  | .word _, _ => none

/-- The byte that an access puts at an address. -/
def put? (address : Nat) (x : Access) : Option UInt8 :=
  if x.isInside ∧ x.start ≤ address ∧ address < x.start + x.len then x.byte? (address - x.start)
  else none

/-- The reply of an array with the given bytes to an access inside it. -/
def Answers (bytes : Nat → UInt8) : Access → Reply → Prop
  | .read start len, reply =>
    ∃ bs, reply = .bytes bs ∧ bs.length = len ∧ ∀ i < len, bs[i]? = some (bytes (start + i))
  | .word start, reply =>
    ∃ w, reply = .word w ∧ w.toNat = 256 * (bytes start).toNat + (bytes (start + 1)).toNat
  | _, reply => reply = .done

end Access

/-- The byte that some accesses put last at an address of a memory. -/
def latest (m : Memory) (xs : List Access) (address : Nat) : UInt8 :=
  (xs.reverse.findSome? (Access.put? address)).getD (m.get address)

/-! ## One access -/

/-- A range that is not inside is refused, and nothing changes. -/
theorem access_of_outside (m : Memory) {x : Access} (outside : 4096 < x.start + x.len) :
    m.access x = (.refused, m) := by
  have apart : ¬ Inside x.start x.len := Nat.not_le.mpr outside
  cases x with
  | write start data =>
    have none : m.write? start data = none := if_neg apart
    rw [access, none, changed]
  | clear start len =>
    have none : m.clear? start len = none := if_neg apart
    rw [access, none, changed]
  | fill start len b =>
    have none : m.fill? start len b = none := if_neg apart
    rw [access, none, changed]
  | read start len =>
    have none : m.read? start len = none := if_neg apart
    rw [access, none, Option.elim_none]
  | word start =>
    have none : m.word? start = none := if_neg apart
    rw [access, none, Option.elim_none]

/-- The number of two bytes is not cut off. -/
theorem toNat_word (high low : UInt8) :
    (high.toUInt16 * 256 + low.toUInt16).toNat = 256 * high.toNat + low.toNat := by
  have highest := high.toNat_lt
  have lowest := low.toNat_lt
  rw [UInt16.toNat_add, UInt16.toNat_mul, UInt8.toNat_toUInt16, UInt8.toNat_toUInt16]
  show (high.toNat * 256 % 65536 + low.toNat) % 65536 = _
  omega

/-- An access inside is answered by the bytes there are. -/
theorem access_of_inside (m : Memory) {x : Access} (inside : x.start + x.len ≤ 4096) :
    x.Answers m.get (m.access x).1 := by
  cases x with
  | write start data =>
    have some : m.write? start data = _ := if_pos inside
    rw [access, some]
    rfl
  | clear start len =>
    have some : m.clear? start len = _ := if_pos inside
    rw [access, some]
    rfl
  | fill start len b =>
    have some : m.fill? start len b = _ := if_pos inside
    rw [access, some]
    rfl
  | read start len =>
    have some : m.read? start len = _ := if_pos inside
    rw [access, some]
    refine ⟨_, rfl, by simp, ?_⟩
    intro i within
    simp [within]
  | word start =>
    have some : m.word? start = _ := if_pos inside
    rw [access, some]
    exact ⟨_, rfl, toNat_word _ _⟩

theorem Access.Answers.ne_refused {bytes : Nat → UInt8} {x : Access} {reply : Reply}
    (answers : x.Answers bytes reply) : reply ≠ .refused := by
  rintro rfl
  cases x with
  | write start data => cases answers
  | clear start len => cases answers
  | fill start len b => cases answers
  | read start len =>
    obtain ⟨_, same, _⟩ := answers
    cases same
  | word start =>
    obtain ⟨_, same, _⟩ := answers
    cases same

/-- A fill puts its byte at each address of its range. -/
theorem get_changed_fill (m : Memory) {start len : Nat} (inside : start + len ≤ 4096) (b : UInt8)
    (a : Nat) :
    (m.changed (m.fill? start len b)).2.get a =
      if start ≤ a ∧ a < start + len then b else m.get a := by
  have filled := m.get_filled inside b a
  have some : m.fill? start len b = _ := if_pos inside
  rw [some] at filled ⊢
  exact filled

/-- A write puts its bytes one after the other. -/
theorem get_changed_write (m : Memory) {start : Nat} {data : Bytes}
    (inside : start + data.size ≤ 4096) (a : Nat) :
    (m.changed (m.write? start data)).2.get a =
      if start ≤ a then data[a - start]?.getD (m.get a) else m.get a := by
  have written := m.get_written inside a
  have some : m.write? start data = _ := if_pos inside
  rw [some] at written ⊢
  exact written

/-- After an access each address has the byte that was put there, or the old one. -/
theorem get_access (m : Memory) (x : Access) (a : Nat) :
    (m.access x).2.get a = (x.put? a).getD (m.get a) := by
  by_cases inside : x.start + x.len ≤ 4096
  · have range : x.put? a =
        if x.start ≤ a ∧ a < x.start + x.len then x.byte? (a - x.start) else none := by
      simp [Access.put?, Access.isInside, inside]
    rw [range]
    cases x with
    | write start data =>
      refine (m.get_changed_write inside a).trans ?_
      by_cases reached : start ≤ a
      · by_cases within : a < start + data.size
        · simp [Access.start, Access.len, Access.byte?, reached, within]
        · have past : data[a - start]? = none := Array.getElem?_eq_none (by omega)
          simp [Access.start, Access.len, reached, within, past]
      · simp [Access.start, reached]
    | clear start len =>
      refine (m.get_changed_fill inside 0 a).trans ?_
      split <;> simp_all [Access.start, Access.len, Access.byte?]
    | fill start len b =>
      refine (m.get_changed_fill inside b a).trans ?_
      split <;> simp_all [Access.start, Access.len, Access.byte?]
    | read start len => simp [access, Access.byte?]
    | word start => simp [access, Access.byte?]
  · rw [m.access_of_outside (Nat.not_le.mp inside)]
    simp [Access.put?, Access.isInside, inside]

/-! ## Many accesses -/

/-- After some accesses each address has the byte put there last, or the first one. -/
theorem get_accessAll (m : Memory) (xs : List Access) (a : Nat) :
    (m.accessAll xs).get a = m.latest xs a := by
  induction xs generalizing m with
  | nil => rfl
  | cons x xs ih =>
    rw [accessAll_cons, ih, latest, latest, get_access, List.reverse_cons, List.findSome?_append]
    cases xs.reverse.findSome? (Access.put? a) with
    | none => simp
    | some b => rfl

theorem accessAll_concat (m : Memory) (xs : List Access) (x : Access) :
    m.accessAll (xs ++ [x]) = ((m.accessAll xs).access x).2 := by
  induction xs generalizing m with
  | nil => rfl
  | cons y xs ih => rw [List.cons_append, accessAll_cons, ih, accessAll_cons]

/-- The refused accesses make no difference. -/
theorem accessAll_filter (m : Memory) (xs : List Access) :
    m.accessAll (xs.filter Access.isInside) = m.accessAll xs := by
  induction xs generalizing m with
  | nil => rfl
  | cons x xs ih =>
    by_cases inside : x.start + x.len ≤ 4096
    · rw [List.filter_cons_of_pos (by simpa [Access.isInside] using inside), accessAll_cons,
        accessAll_cons, ih]
    · rw [List.filter_cons_of_neg (by simpa [Access.isInside] using inside), accessAll_cons,
        m.access_of_outside (Nat.not_le.mp inside), ih]

/-- The memory is a plain array of 4096 bytes with checked ranges.  Take any memory, any accesses
and one more.  Each address has the byte that was last put there.  The access is answered exactly
if its range ends at or below 4096.  It is then answered by these bytes, puts its own in its range
and leaves all others.  If its range ends above, it is refused and no byte changes.  What comes
later goes on from there, as if the refused accesses had not been. -/
theorem memory_is_plain_array (m : Memory) (past : List Access) (next : Access) :
    let here := m.accessAll past
    let bytes := m.latest past
    let reply := (here.access next).1
    let after := (here.access next).2
    (∀ a, here.get a = bytes a) ∧
    (reply ≠ .refused ↔ next.start + next.len ≤ 4096) ∧
    (next.start + next.len ≤ 4096 →
      next.Answers bytes reply ∧
      (∀ i < next.len,
        after.get (next.start + i) = (next.byte? i).getD (bytes (next.start + i))) ∧
      ∀ a, a < next.start ∨ next.start + next.len ≤ a → after.get a = bytes a) ∧
    (4096 < next.start + next.len → reply = .refused ∧ after = here) ∧
    m.accessAll (past ++ [next]) = after ∧
    m.accessAll (past.filter Access.isInside) = here := by
  intro here bytes reply after
  have now : here.get = bytes := funext (m.get_accessAll past)
  have answered (inside : next.start + next.len ≤ 4096) : next.Answers bytes reply :=
    now ▸ here.access_of_inside inside
  have refused (outside : 4096 < next.start + next.len) : here.access next = (.refused, here) :=
    here.access_of_outside outside
  have later (a : Nat) : after.get a = (next.put? a).getD (bytes a) :=
    now ▸ here.get_access next a
  refine ⟨congrFun now, ⟨?_, ?_⟩, ?_, ?_, m.accessAll_concat past next, m.accessAll_filter past⟩
  · intro replied
    refine Nat.not_lt.mp fun outside => ?_
    exact replied (congrArg Prod.fst (refused outside))
  · intro inside
    exact (answered inside).ne_refused
  · intro inside
    refine ⟨answered inside, ?_, ?_⟩
    · intro i within
      have place : next.start + i - next.start = i := Nat.add_sub_cancel_left ..
      have reached : next.start ≤ next.start + i ∧ next.start + i < next.start + next.len := by
        omega
      rw [later, Access.put?, if_pos ⟨decide_eq_true inside, reached⟩, place]
    · intro a apart
      rw [later, Access.put?, if_neg (by omega)]
      rfl
  · intro outside
    exact ⟨congrArg Prod.fst (refused outside), congrArg Prod.snd (refused outside)⟩

/-- A write that another one covers in part, and one that reaches over the end. -/
theorem memory_is_plain_array_of_write_over_end :
    let past : List Access :=
      [.write 0x200 #[1, 2, 3, 4], .fill 0x202 1 9, .write 0xfff #[7, 8]]
    let here := initial.accessAll past
    (here.access (.word 0x202)).1 = .word 0x0904 ∧
    (here.access (.write 0xfff #[7, 8])).1 = .refused ∧ here.get 0xfff = 0 ∧
    (here.access (.clear 0x1000 0)).1 ≠ .refused ∧
    (here.access (.clear 0x1001 0)).1 = .refused := by
  intro past here
  obtain ⟨bytes, _, served, _⟩ := memory_is_plain_array initial past (.word 0x202)
  obtain ⟨⟨w, reply, number⟩, _⟩ := served (by decide)
  obtain ⟨_, _, _, beyond, _⟩ := memory_is_plain_array initial past (.write 0xfff #[7, 8])
  obtain ⟨_, empty, _⟩ := memory_is_plain_array initial past (.clear 0x1000 0)
  obtain ⟨_, _, _, above, _⟩ := memory_is_plain_array initial past (.clear 0x1001 0)
  have nine : past.reverse.findSome? (Access.put? 0x202) = some 9 := by decide
  have four : past.reverse.findSome? (Access.put? 0x203) = some 4 := by decide
  have never : past.reverse.findSome? (Access.put? 0xfff) = none := by decide
  have last : here.get 0xfff = 0 := by
    rw [bytes, latest, never, Option.getD_none, get_initial_of_le (by decide)]
  rw [latest, latest, nine, four] at number
  have same : w = 0x0904 := UInt16.toNat_inj.mp number
  rw [same] at reply
  exact ⟨reply, (beyond (by decide)).1, last, empty.mpr (by decide), (above (by decide)).1⟩

end VipHost.Memory
