import VipHost.Proofs.WrittenTexts
import VipHost.Text.Quoted

/-!
# Reading numbers that were written

A natural number is written with its digits and no zero in front, which is one of the ways an
integer may be written (`writtenAs_numeral`).  So a reader gets the number back, also when a comma,
a bracket or the end of the line follows (`value?_numeral`).

A list of numbers in brackets is read item by item (`value?_bracketed`).
-/

namespace VipHost.Toml

/-- The largest integer of 64 bits with a sign. -/
def largest : Nat := 9223372036854775807

/-- A value is a natural number. -/
def IsInteger (n : Nat) (node : Node) : Prop := ∃ span, node = .scalar span (.integer n)

/-- A value is a list of natural numbers. -/
def IsList (ns : List Nat) (node : Node) : Prop :=
  ∃ span nodes, node = .array span nodes ∧ ns.Forall₂ IsInteger nodes

/-! ## Digits -/

/-- The digits of a natural number. -/
def numeral (n : Nat) : List Char := Nat.toDigits 10 n

theorem isDigit_of_mem_numeral {n : Nat} {c : Char} (inside : c ∈ numeral n) : c.isDigit = true :=
  Nat.isDigit_of_mem_toDigits (by decide) (by decide) inside

theorem toList_toString (n : Nat) : (toString n).toList = numeral n := by
  rw [Nat.toString_eq_repr, Nat.toList_repr, numeral]

theorem numberOfDigits_numeral (n : Nat) : numberOfDigits 10 (numeral n) = n := by
  have same : numberOfDigits 10 (numeral n) = Nat.ofDigitChars 10 (numeral n) 0 := by
    refine List.foldl_ext _ _ _ fun sum c inside => ?_
    rw [digitValue, if_pos (isDigit_of_mem_numeral inside), Nat.mul_comm]
  rw [same, numeral, Nat.ofDigitChars_ten_toDigits]

theorem numeral_inj {m n : Nat} (same : numeral m = numeral n) : m = n := by
  rw [← numberOfDigits_numeral m, same, numberOfDigits_numeral]

/-- Only the number zero begins with a zero. -/
theorem numeral_no_zero_in_front {n : Nat} {tail : List Char} (front : numeral n = '0' :: tail) :
    tail = [] := by
  induction n using Nat.strongRecOn generalizing tail with
  | _ n ih =>
    by_cases small : n < 10
    · rw [numeral, Nat.toDigits_of_lt_base small] at front
      exact (List.cons.inj front).2.symm
    · rw [numeral, Nat.toDigits_of_base_le (by decide) (Nat.not_lt.mp small), ← numeral] at front
      cases upper : numeral (n / 10) with
      | nil => exact absurd upper Nat.toDigits_ne_nil
      | cons d digits =>
        rw [upper] at front
        obtain ⟨rfl, _⟩ := List.cons.inj front
        have zero := ih (n / 10) (by omega) upper
        subst zero
        have nothing : n / 10 = 0 := numeral_inj (n := 0) upper
        omega

/-- A numeral has a first digit. -/
theorem exists_numeral_eq_cons (n : Nat) :
    ∃ d digits, numeral n = d :: digits ∧ d.isDigit = true := by
  obtain ⟨d, digits, front⟩ := List.exists_cons_of_ne_nil (Nat.toDigits_ne_nil (n := n) (b := 10))
  exact ⟨d, digits, front, isDigit_of_mem_numeral (front ▸ List.mem_cons_self ..)⟩

theorem numeral_ne_cons {n : Nat} {rest : List Char} {c : Char} (noDigit : c.isDigit = false)
    (tail : List Char) : numeral n ++ rest ≠ c :: tail := by
  obtain ⟨d, digits, front, isDigit⟩ := exists_numeral_eq_cons n
  rw [front, List.cons_append]
  intro same
  rw [(List.cons.inj same).1, noDigit] at isDigit
  cases isDigit

/-- The digits are a whole number as it may be written. -/
theorem whole_numeral (n : Nat) : Whole (numeral n) (numeral n) := by
  obtain ⟨d, digits, front, _⟩ := exists_numeral_eq_cons n
  have all : ∀ c ∈ numeral n, c.isDigit = true := fun c => isDigit_of_mem_numeral
  by_cases zero : d = '0'
  · subst zero
    have single := numeral_no_zero_in_front front
    subst single
    rw [front]
    exact .zero
  · rw [front] at all ⊢
    exact .digits zero (.of_all all)

theorem writtenAs_numeral {n : Nat} (small : n ≤ largest) :
    (Scalar.integer n).WrittenAs (numeral n) := by
  have written : WrittenInteger (numberOfDigits 10 (numeral n)) (numeral n) :=
    .decimal .none (whole_numeral n)
  rw [numberOfDigits_numeral] at written
  unfold largest at small
  exact .integer written (by omega)

/-- A number is read as a value at any depth. -/
theorem value?_numeral {n : Nat} (small : n ≤ largest) {rest : List Char} (follows : Follows rest)
    (depth : Nat) :
    ∃ node, IsInteger n node ∧ value? depth (numeral n ++ rest) = some (node, rest) := by
  have read := (writtenAs_numeral small).value? depth
  exact ⟨_, ⟨_, rfl⟩, stable_value? depth read follows⟩

/-! ## Numbers in brackets -/

/-- Numbers with commas and blanks between them. -/
def items (ns : List Nat) : List Char := List.intercalate [',', ' '] (ns.map numeral)

theorem items_cons (n m : Nat) (ns : List Nat) :
    items (n :: m :: ns) = numeral n ++ ',' :: ' ' :: items (m :: ns) := by
  simp [items, List.intercalate]

theorem items_singleton (n : Nat) : items [n] = numeral n := by
  simp [items, List.intercalate]

theorem skipGap_numeral (n : Nat) (rest : List Char) :
    skipGap false (numeral n ++ rest) = numeral n ++ rest := by
  obtain ⟨d, digits, front, isDigit⟩ := exists_numeral_eq_cons n
  have other : ∀ c : Char, c.isDigit = false → d ≠ c := by
    rintro c noDigit rfl
    rw [noDigit] at isDigit
    cases isDigit
  rw [front, List.cons_append, skipGap]
  simp [isBlank, other '#' rfl, other ' ' rfl, other '\t' rfl, other '\n' rfl, other '\r' rfl]

section

variable {n : Nat} (small : n ≤ largest) (depth : Nat) {s rest : List Char}
include small

/-- A number with a comma after it. -/
theorem itemStep_comma (front : skipGap false s = numeral n ++ ',' :: rest) :
    ∃ node, IsInteger n node ∧ itemStep (value? depth) s = some (.more node rest) := by
  have follows : Follows (',' :: rest) := .of_ne_blank rfl (by decide) rest
  obtain ⟨node, integer, read⟩ := value?_numeral small follows depth
  rw [← front] at read
  refine ⟨node, integer, itemStep_of_comma (fun t => ?_) read rfl⟩
  rw [front]
  exact numeral_ne_cons rfl t

/-- The last number. -/
theorem itemStep_bracket (front : skipGap false s = numeral n ++ ']' :: rest) :
    ∃ node, IsInteger n node ∧ itemStep (value? depth) s = some (.last [node] rest) := by
  have follows : Follows (']' :: rest) := .of_ne_blank rfl (by decide) rest
  obtain ⟨node, integer, read⟩ := value?_numeral small follows depth
  rw [← front] at read
  refine ⟨node, integer, itemStep_of_bracket (fun t => ?_) read rfl⟩
  rw [front]
  exact numeral_ne_cons rfl t

end

/-- The numbers are read one after the other.  All but the first have a blank in front. -/
theorem collect_items {ns : List Nat} (small : ∀ n ∈ ns, n ≤ largest) (depth : Nat)
    {gap : List Char} (blank : gap = [] ∨ gap = [' ']) (rest : List Char) :
    ∃ nodes, ns.Forall₂ IsInteger nodes ∧
      collect (itemStep (value? depth)) (gap ++ (items ns ++ ']' :: rest)) =
        some (nodes, rest) := by
  have skip : ∀ s, skipGap false (gap ++ s) = skipGap false s := by
    intro s
    obtain rfl | rfl := blank
    · rfl
    · rfl
  induction ns generalizing gap with
  | nil =>
    refine ⟨[], .nil, collect_of_last ?_⟩
    rw [itemStep, skip]
    rfl
  | cons n ns ih =>
    have smallFirst := small n (List.mem_cons_self ..)
    cases ns with
    | nil =>
      rw [items_singleton]
      have front := (skip _).trans (skipGap_numeral n (']' :: rest))
      obtain ⟨node, integer, last⟩ := itemStep_bracket smallFirst depth front
      exact ⟨[node], .cons integer .nil, collect_of_last last⟩
    | cons m ns =>
      have left := fun k inside => small k (List.mem_cons_of_mem n inside)
      obtain ⟨nodes, integers, read⟩ := ih left (.inr rfl) fun _ => rfl
      rw [items_cons, List.append_assoc]
      have front := (skip _).trans
        (skipGap_numeral n (',' :: ([' '] ++ (items (m :: ns) ++ ']' :: rest))))
      obtain ⟨node, integer, more⟩ := itemStep_comma smallFirst depth front
      refine ⟨node :: nodes, .cons integer integers, (collect_of_more more ?_).trans ?_⟩
      · simp only [List.length_append, List.length_cons]
        omega
      · rw [read]
        rfl

/-- A list of numbers as it is written. -/
def bracketed (ns : List Nat) : List Char := '[' :: (items ns ++ [']'])

/-- A list of numbers is read as a value. -/
theorem value?_bracketed {ns : List Nat} (small : ∀ n ∈ ns, n ≤ largest) (depth : Nat)
    (rest : List Char) :
    ∃ node, IsList ns node ∧ value? (depth + 1) (bracketed ns ++ rest) = some (node, rest) := by
  obtain ⟨nodes, integers, read⟩ := collect_items small depth (.inl rfl) rest
  have whole : bracketed ns ++ rest = '[' :: ([] ++ (items ns ++ ']' :: rest)) := by
    rw [bracketed, List.cons_append, List.append_assoc, List.nil_append, List.cons_append,
      List.nil_append]
  let span : Span := ⟨(bracketed ns ++ rest).length, rest.length⟩
  refine ⟨.array span nodes, ⟨span, nodes, rfl, integers⟩, ?_⟩
  rw [whole, value?, read, ← whole]
  rfl

theorem toList_bracketed (ns : List Nat) :
    (Text.bracketed (ns.map toString)).toList = bracketed ns := by
  have digits : (ns.map toString).map String.toList = ns.map numeral := by
    rw [List.map_map]
    exact List.map_congr_left fun n _ => toList_toString n
  rw [Text.bracketed, String.toList_append, String.toList_append, String.toList_intercalate, digits]
  rfl

end VipHost.Toml
