import VipHost.Proofs.NearestDoubles
import VipHost.Proofs.NumberEnds

/-!
# How numbers are written

The grammar of numbers: an integer in decimal or in another base (`WrittenInteger`), and a float,
in decimal with a fraction, an exponent or both (`WrittenDecimal`), an infinity, or what is no
number (`WrittenFloat`).  Digits may have single underscores between them.  What a decimal stands
for is said by `Nearest`, not by how it is read.

A number with nothing after it is read as what it is written for (`WrittenInteger.number?`,
`WrittenFloat.number?`), but for a decimal too large for every double (`WrittenDecimal.number?`).
The digits of a number could be those of a date or a time, but then a dash or a colon would come
next, and none does (`NoMoment`).
-/

namespace VipHost.Toml

/-! ## Digits and signs -/

/-- Digits as they are written, with single underscores between them. -/
inductive Grouped (isDigit : Char → Bool) : List Char → List Char → Prop where
  | one {d : Char} (digit : isDigit d = true) : Grouped isDigit [d] [d]
  | next {d : Char} {digits s : List Char} (digit : isDigit d = true)
      (more : Grouped isDigit digits s) : Grouped isDigit (d :: digits) (d :: s)
  | underscore {d : Char} {digits s : List Char} (digit : isDigit d = true)
      (more : Grouped isDigit digits s) : Grouped isDigit (d :: digits) (d :: '_' :: s)

theorem Grouped.of_all {isDigit : Char → Bool} {d : Char} {digits : List Char}
    (all : ∀ c ∈ d :: digits, isDigit c = true) :
    Grouped isDigit (d :: digits) (d :: digits) := by
  induction digits generalizing d with
  | nil => exact .one (all d (List.mem_cons_self ..))
  | cons c digits ih =>
    exact .next (all d (List.mem_cons_self ..)) (ih fun e inside => all e (.tail d inside))

/-- A sign, if there is one, and whether it makes a number negative. -/
inductive Signed : Bool → List Char → Prop where
  | none : Signed false []
  | plus : Signed false ['+']
  | minus : Signed true ['-']

/-- The digits of a whole number in decimal, with no zero in front. -/
inductive Whole : List Char → List Char → Prop where
  | zero : Whole ['0'] ['0']
  | digits {d : Char} {digits s : List Char} (nonzero : d ≠ '0')
      (grouped : Grouped Char.isDigit (d :: digits) s) : Whole (d :: digits) s

/-- The digits after a point, if there is one. -/
inductive Fraction : List Char → List Char → Prop where
  | none : Fraction [] []
  | digits {digits s : List Char} (grouped : Grouped Char.isDigit digits s) :
      Fraction digits ('.' :: s)

/-- A number with its sign. -/
def signed (negative : Bool) (n : Nat) : Int := if negative then -n else n

/-- A power of ten, if there is one. -/
inductive Exponent : Int → List Char → Prop where
  | none : Exponent 0 []
  | power {c : Char} {negative : Bool} {t digits s : List Char} (letter : c = 'e' ∨ c = 'E')
      (sign : Signed negative t) (grouped : Grouped Char.isDigit digits s) :
      Exponent (signed negative (numberOfDigits 10 digits)) (c :: (t ++ s))

/-! ## Numbers -/

/-- An integer as it is written. -/
inductive WrittenInteger : Int → List Char → Prop where
  | decimal {negative : Bool} {t digits s : List Char} (sign : Signed negative t)
      (whole : Whole digits s) :
      WrittenInteger (signed negative (numberOfDigits 10 digits)) (t ++ s)
  | hexadecimal {digits s : List Char} (grouped : Grouped isHexDigit digits s) :
      WrittenInteger (numberOfDigits 16 digits) ('0' :: 'x' :: s)
  | octal {digits s : List Char} (grouped : Grouped isOctalDigit digits s) :
      WrittenInteger (numberOfDigits 8 digits) ('0' :: 'o' :: s)
  | binary {digits s : List Char} (grouped : Grouped isBinaryDigit digits s) :
      WrittenInteger (numberOfDigits 2 digits) ('0' :: 'b' :: s)

/-- A number in decimal with a fraction, an exponent or both, and the double nearest to it. -/
inductive WrittenDecimal : Binary64 → List Char → Prop where
  | mk {x : Binary64} {negative : Bool} {exponent : Int} {t whole w fraction f e : List Char}
      (sign : Signed negative t) (before : Whole whole w) (after : Fraction fraction f)
      (power : Exponent exponent e) (either : f ++ e ≠ [])
      (nearest : x.Nearest negative
        (numberOfDigits 10 (whole ++ fraction) * 10 ^ (exponent - fraction.length))) :
      WrittenDecimal x (t ++ (w ++ (f ++ e)))

/-- A float as it is written.  A positive number too large for every double is none. -/
inductive WrittenFloat : Binary64 → List Char → Prop where
  | decimal {x : Binary64} {s : List Char} (written : WrittenDecimal x s)
      (finite : x ≠ .infinity false) : WrittenFloat x s
  | infinity {negative : Bool} {t : List Char} (sign : Signed negative t) :
      WrittenFloat (.infinity negative) (t ++ ['i', 'n', 'f'])
  | nan {negative : Bool} {t : List Char} (sign : Signed negative t) :
      WrittenFloat .nan (t ++ ['n', 'a', 'n'])

/-! ## Reading digits -/

/-- What comes after digits: nothing, or something that is neither a digit nor an underscore. -/
def Stops (isDigit : Char → Bool) (rest : List Char) : Prop :=
  ∀ c t, rest = c :: t → isDigit c = false ∧ c ≠ '_'

theorem moreDigits_stops {isDigit : Char → Bool} {rest : List Char} (stops : Stops isDigit rest) :
    moreDigits isDigit rest = some ([], rest) := by
  match rest with
  | [] => rfl
  | [c] =>
    obtain ⟨noDigit, other⟩ := stops c [] rfl
    simp [moreDigits, noDigit, other]
  | c :: d :: rest =>
    obtain ⟨noDigit, other⟩ := stops c (d :: rest) rfl
    simp [moreDigits, noDigit, other]

theorem moreDigits_digit {isDigit : Char → Bool} {d : Char} (digit : isDigit d = true)
    (s : List Char) :
    moreDigits isDigit (d :: s) =
      (moreDigits isDigit s).map fun (digits, rest) => (d :: digits, rest) := by
  cases s with
  | nil => simp [moreDigits, digit]
  | cons c s => simp [moreDigits, digit]

theorem moreDigits_underscore {isDigit : Char → Bool} {d : Char} (noDigit : isDigit '_' = false)
    (digit : isDigit d = true) (s : List Char) :
    moreDigits isDigit ('_' :: d :: s) = moreDigits isDigit (d :: s) := by
  rw [moreDigits_digit digit]
  simp [moreDigits, noDigit, digit]

namespace Grouped

variable {isDigit : Char → Bool} {digits s : List Char} (grouped : Grouped isDigit digits s)
include grouped

theorem exists_cons : ∃ d t, s = d :: t ∧ isDigit d = true := by
  cases grouped with
  | one digit => exact ⟨_, _, rfl, digit⟩
  | next digit => exact ⟨_, _, rfl, digit⟩
  | underscore digit => exact ⟨_, _, rfl, digit⟩

variable {rest : List Char} (stops : Stops isDigit rest)
include stops

theorem moreDigits (noDigit : isDigit '_' = false) :
    moreDigits isDigit (s ++ rest) = some (digits, rest) := by
  induction grouped with
  | one digit =>
    rw [List.cons_append, List.nil_append, moreDigits_digit digit, moreDigits_stops stops]
    rfl
  | next digit more ih =>
    rw [List.cons_append, moreDigits_digit digit, ih]
    rfl
  | underscore digit more ih =>
    obtain ⟨d, t, rfl, first⟩ := more.exists_cons
    rw [List.cons_append] at ih
    rw [List.cons_append, moreDigits_digit digit, List.cons_append, List.cons_append,
      moreDigits_underscore noDigit first, ih]
    rfl

theorem digits? (noDigit : isDigit '_' = false) :
    digits? isDigit (s ++ rest) = some (digits, rest) := by
  have read := grouped.moreDigits stops noDigit
  obtain ⟨d, t, rfl, first⟩ := grouped.exists_cons
  rw [List.cons_append] at read ⊢
  rw [Toml.digits?, if_pos first, read]

end Grouped

theorem Whole.exists_cons {digits s : List Char} (whole : Whole digits s) :
    ∃ d t, s = d :: t ∧ d.isDigit = true := by
  cases whole with
  | zero => exact ⟨'0', [], rfl, rfl⟩
  | digits nonzero grouped => exact grouped.exists_cons

theorem Whole.decimalDigits? {digits s rest : List Char} (whole : Whole digits s)
    (stops : Stops Char.isDigit rest) : decimalDigits? (s ++ rest) = some (digits, rest) := by
  cases whole with
  | zero => rfl
  | digits nonzero grouped =>
    have read := grouped.digits? stops rfl
    obtain ⟨d, t, rfl, _⟩ := grouped.exists_cons
    have first : d ≠ '0' := by
      cases grouped <;> exact nonzero
    rw [List.cons_append] at read ⊢
    unfold Toml.decimalDigits?
    split
    next same => exact absurd (List.cons.inj same).1 first
    next => exact read

/-! ## Reading a fraction and an exponent -/

theorem Signed.sign {negative : Bool} {t : List Char} (signed : Signed negative t)
    {c : Char} {s : List Char} (minus : c ≠ '-') (plus : c ≠ '+') :
    sign (t ++ c :: s) = (negative, c :: s) := by
  cases signed with
  | none => simp [Toml.sign, minus, plus]
  | plus => rfl
  | minus => rfl

theorem ne_of_isDigit {c d : Char} (digit : c.isDigit = true) (other : d.isDigit = false) :
    c ≠ d := by
  rintro rfl
  rw [digit] at other
  cases other

/-- A sign in front of a digit. -/
theorem Signed.sign_digit {negative : Bool} {t s : List Char} (signed : Signed negative t)
    (first : ∃ d s', s = d :: s' ∧ d.isDigit = true) : Toml.sign (t ++ s) = (negative, s) := by
  obtain ⟨d, s', rfl, digit⟩ := first
  exact signed.sign (ne_of_isDigit digit rfl) (ne_of_isDigit digit rfl)

theorem stops_nil (isDigit : Char → Bool) : Stops isDigit [] := by
  intro c t same
  cases same

theorem Exponent.stops {n : Int} {e : List Char} (power : Exponent n e) : Stops Char.isDigit e := by
  intro c t same
  cases power with
  | none => cases same
  | power letter sign grouped =>
    cases same
    obtain rfl | rfl := letter <;> decide

theorem Exponent.exponent? {n : Int} {e : List Char} (power : Exponent n e) :
    exponent? e = some (n, []) := by
  cases power with
  | none => rfl
  | power letter sign grouped =>
    have read := grouped.digits? (stops_nil _) rfl
    rw [List.append_nil] at read
    simp only [Toml.exponent?, sign.sign_digit grouped.exists_cons, read]
    rw [if_pos (by simpa using letter)]
    rfl

theorem Fraction.fraction? {digits f : List Char} (after : Fraction digits f) {n : Int}
    {e : List Char} (power : Exponent n e) : fraction? (f ++ e) = some (digits, e) := by
  cases after with
  | none =>
    cases power with
    | none => rfl
    | power letter sign grouped => obtain rfl | rfl := letter <;> rfl
  | digits grouped => exact grouped.digits? power.stops rfl

/-- After the whole digits of a float comes a point or the letter of an exponent. -/
theorem exists_cons_of_float {digits f e : List Char} {n : Int} (after : Fraction digits f)
    (power : Exponent n e) (either : f ++ e ≠ []) :
    ∃ c t, f ++ e = c :: t ∧ (c = '.' ∨ c = 'e' ∨ c = 'E') := by
  cases after with
  | none =>
    cases power with
    | none => exact absurd rfl either
    | power letter sign grouped => exact ⟨_, _, rfl, .inr letter⟩
  | digits grouped => exact ⟨'.', _, rfl, .inl rfl⟩

/-! ## No moments -/

/-- Some digits with other text after them, of which no date and no time begins. -/
def NoMoment (s : List Char) : Prop :=
  ∀ c t, s.dropWhile Char.isDigit = c :: t → s.takeWhile Char.isDigit ≠ [] → c ≠ '-' ∧ c ≠ ':'

theorem char?_field?_eq_none {s left : List Char} {width least greatest n : Nat}
    (no : NoMoment s) (some : 0 < width) (read : field? width least greatest s = .some (n, left))
    {c : Char} (separates : c = '-' ∨ c = ':') : char? c left = none := by
  simp only [field?, Option.ite_none_right_eq_some, Bool.and_eq_true, decide_eq_true_eq,
    Option.some.injEq, Prod.mk.injEq] at read
  obtain ⟨⟨⟨⟨length, all⟩, _⟩, _⟩, _, rfl⟩ := read
  have noDigit : c.isDigit = false := by obtain rfl | rfl := separates <;> rfl
  rw [List.all_eq_true] at all
  cases after : s.drop width with
  | nil => rfl
  | cons d t =>
    refine if_neg ?_
    rintro rfl
    -- then the digits would end right at the dash or the colon
    have split : s = s.take width ++ c :: t := by rw [← after, List.take_append_drop]
    have run : s.takeWhile Char.isDigit = s.take width := by
      rw [split, List.takeWhile_append_of_pos all, List.takeWhile_cons_of_neg (by simp [noDigit]),
        List.append_nil, ← split]
    have rest : s.dropWhile Char.isDigit = c :: t := by
      rw [split, List.dropWhile_append_of_pos all, List.dropWhile_cons_of_neg (by simp [noDigit])]
    have something : s.takeWhile Char.isDigit ≠ [] := by
      rw [run]
      intro nothing
      rw [nothing] at length
      simp at length
      omega
    obtain ⟨dash, colon⟩ := no c t rest something
    exact separates.elim dash colon

theorem moment?_eq_none {s : List Char} (no : NoMoment s) : moment? s = none := by
  have year : year? s = none := by
    unfold year?
    cases read : field? 4 0 9999 s with
    | none => rfl
    | some read' => simp [char?_field?_eq_none no (by decide) read (.inl rfl)]
  have hour : hour? s = none := by
    unfold hour?
    cases read : field? 2 0 23 s with
    | none => rfl
    | some read' => simp [char?_field?_eq_none no (by decide) read (.inr rfl)]
  rw [moment?, year, hour]
  rfl

theorem noMoment_cons {c : Char} (noDigit : c.isDigit = false) (s : List Char) :
    NoMoment (c :: s) := by
  intro d t _ some
  simp [noDigit] at some

theorem Signed.noMoment {negative : Bool} {t s : List Char} (signed : Signed negative t)
    (no : NoMoment s) : NoMoment (t ++ s) := by
  cases signed with
  | none => exact no
  | plus => exact noMoment_cons rfl _
  | minus => exact noMoment_cons rfl _

/-- What comes after digits in a number: an underscore, or what comes after all digits of it. -/
theorem Grouped.dropWhile {digits s rest : List Char} (grouped : Grouped Char.isDigit digits s)
    (stops : Stops Char.isDigit rest) {c : Char} {t : List Char}
    (left : (s ++ rest).dropWhile Char.isDigit = c :: t) : c = '_' ∨ rest = c :: t := by
  induction grouped with
  | one digit =>
    rw [List.cons_append, List.nil_append, List.dropWhile_cons_of_pos digit] at left
    cases rest with
    | nil => cases left
    | cons d rest =>
      rw [List.dropWhile_cons_of_neg (by simp [(stops d rest rfl).1])] at left
      exact .inr left
  | next digit more ih =>
    rw [List.cons_append, List.dropWhile_cons_of_pos digit] at left
    exact ih left
  | underscore digit more ih =>
    rw [List.cons_append, List.dropWhile_cons_of_pos digit, List.cons_append,
      List.dropWhile_cons_of_neg (by decide)] at left
    exact .inl (List.cons.inj left).1.symm

theorem Whole.noMoment {digits s rest : List Char} (whole : Whole digits s)
    (stops : Stops Char.isDigit rest) (noDate : ∀ t, rest ≠ '-' :: t)
    (noTime : ∀ t, rest ≠ ':' :: t) : NoMoment (s ++ rest) := by
  intro c t left _
  have cases : c = '_' ∨ rest = c :: t := by
    cases whole with
    | zero => exact Grouped.dropWhile (.one rfl) stops left
    | digits nonzero grouped => exact grouped.dropWhile stops left
  obtain rfl | rfl := cases
  · decide
  · constructor
    · rintro rfl
      exact noDate t rfl
    · rintro rfl
      exact noTime t rfl

/-! ## Reading a number -/

/-- A number that is no moment and has no base in front. -/
theorem number?_plain {s : List Char} (no : NoMoment s)
    (noBase : ∀ c t, s = '0' :: c :: t → c ≠ 'x' ∧ c ≠ 'o' ∧ c ≠ 'b') : number? s = plain? s := by
  unfold number?
  rw [moment?_eq_none no]
  dsimp only
  split
  next => exact absurd rfl (noBase _ _ rfl).1
  next => exact absurd rfl (noBase _ _ rfl).2.1
  next => exact absurd rfl (noBase _ _ rfl).2.2
  next => rfl

theorem plain?_digit {s : List Char} {negative : Bool} {left : List Char}
    (signed : sign s = (negative, left)) (first : ∃ d t, left = d :: t ∧ d.isDigit = true) :
    plain? s = decimal? negative left := by
  obtain ⟨d, t, rfl, digit⟩ := first
  unfold plain?
  rw [signed]
  split
  next same =>
    cases same
    cases digit
  next same =>
    cases same
    cases digit
  next same =>
    cases same
    rfl

theorem integerInRange_eq {n : Int} (range : -9223372036854775808 ≤ n ∧ n ≤ 9223372036854775807) :
    integerInRange n = some (.integer n) := if_pos range

theorem Signed.no_base {negative : Bool} {t s : List Char} {d : Char} (signed : Signed negative t)
    (first : d ≠ '0') (c : Char) (left : List Char) (same : t ++ d :: s = '0' :: c :: left) :
    c ≠ 'x' ∧ c ≠ 'o' ∧ c ≠ 'b' := by
  cases signed with
  | none => exact absurd (List.cons.inj same).1 first
  | plus => cases same
  | minus => cases same

/-- A number in decimal is read after its sign. -/
theorem number?_decimal {negative : Bool} {t digits s r : List Char}
    (sign : Signed negative t) (whole : Whole digits s)
    (ends : ∀ c left, r = c :: left → c = '.' ∨ c = 'e' ∨ c = 'E') :
    number? (t ++ (s ++ r)) = decimal? negative (s ++ r) := by
  have stops : Stops Char.isDigit r := by
    intro c left same
    obtain rfl | rfl | rfl := ends c left same <;> decide
  have no : NoMoment (t ++ (s ++ r)) := by
    refine sign.noMoment (whole.noMoment stops ?_ ?_)
    · intro left same
      simpa using ends _ _ same
    · intro left same
      simpa using ends _ _ same
  have first : ∃ d left, s ++ r = d :: left ∧ d.isDigit = true := by
    obtain ⟨d, left, rfl, digit⟩ := whole.exists_cons
    exact ⟨d, left ++ r, rfl, digit⟩
  rw [number?_plain no ?_, plain?_digit (sign.sign_digit first) first]
  intro c left same
  cases sign with
  | plus => cases same
  | minus => cases same
  | none =>
    rw [List.nil_append] at same
    cases whole with
    | zero =>
      obtain rfl | rfl | rfl := ends c left (List.cons.inj same).2 <;> decide
    | digits nonzero grouped =>
      cases grouped <;> exact absurd (List.cons.inj same).1 nonzero

/-- An integer is read, if it has 64 bits. -/
theorem WrittenInteger.number? {n : Int} {s : List Char} (written : WrittenInteger n s)
    (range : -9223372036854775808 ≤ n ∧ n ≤ 9223372036854775807) :
    number? s = some (.integer n, []) := by
  have based {base : Nat} {isDigit : Char → Bool} {digits s : List Char}
      (grouped : Grouped isDigit digits s) (noDigit : isDigit '_' = false)
      (range : -9223372036854775808 ≤ (numberOfDigits base digits : Int) ∧
        (numberOfDigits base digits : Int) ≤ 9223372036854775807) :
      basedInteger? base isDigit s = some (.integer (numberOfDigits base digits), []) := by
    have read := grouped.digits? (stops_nil _) noDigit
    rw [List.append_nil] at read
    simp [basedInteger?, read, integerInRange_eq range]
  have no {c : Char} {s : List Char} (noDigit : c.isDigit = false) (dash : c ≠ '-')
      (colon : c ≠ ':') : moment? ('0' :: c :: s) = none := by
    refine moment?_eq_none fun d t left _ => ?_
    rw [List.dropWhile_cons_of_pos rfl, List.dropWhile_cons_of_neg (by simp [noDigit])] at left
    obtain ⟨rfl, _⟩ := List.cons.inj left
    exact ⟨dash, colon⟩
  cases written with
  | decimal sign whole =>
    have read := whole.decimalDigits? (stops_nil _)
    have number := number?_decimal sign whole (r := []) (by simp)
    rw [List.append_nil] at read number
    have integer := integerInRange_eq range
    rw [signed] at integer
    rw [number, decimal?, read]
    simp [decimal?.integer, integer, signed]
  | hexadecimal grouped =>
    simp only [Toml.number?, no (c := 'x') rfl (by decide) (by decide)]
    exact based grouped rfl range
  | octal grouped =>
    simp only [Toml.number?, no (c := 'o') rfl (by decide) (by decide)]
    exact based grouped rfl range
  | binary grouped =>
    simp only [Toml.number?, no (c := 'b') rfl (by decide) (by decide)]
    exact based grouped rfl range

theorem WrittenDecimal.exists_cons {x : Binary64} {s : List Char} (written : WrittenDecimal x s) :
    ∃ c t, s = c :: t ∧ (c.isDigit = true ∨ c = '+' ∨ c = '-') := by
  obtain ⟨sign, before, _, _, _, _⟩ := written
  obtain ⟨d, t, rfl, digit⟩ := before.exists_cons
  cases sign with
  | none => exact ⟨d, _, rfl, .inl digit⟩
  | plus => exact ⟨'+', _, rfl, .inr (.inl rfl)⟩
  | minus => exact ⟨'-', _, rfl, .inr (.inr rfl)⟩

/-- A number in decimal is read as the double nearest to it, or refused for being too large. -/
theorem WrittenDecimal.number? {x : Binary64} {s : List Char} (written : WrittenDecimal x s) :
    number? s = if x = .infinity false then none else some (.float x, []) := by
  obtain @⟨negative, exponent, t, whole, w, fraction, f, e, sign, before, after, power, either,
    nearest⟩ := written
  obtain ⟨c, left, front, letter⟩ := exists_cons_of_float after power either
  have ends : ∀ d left, f ++ e = d :: left → d = '.' ∨ d = 'e' ∨ d = 'E' := by
    intro d left' same
    rw [front] at same
    rwa [← (List.cons.inj same).1]
  have stops : Stops Char.isDigit (f ++ e) := by
    intro d left same
    obtain rfl | rfl | rfl := ends d left same <;> decide
  have same : Binary64.ofDecimal negative (numberOfDigits 10 (whole ++ fraction))
      (exponent - fraction.length) = x := (Binary64.Nearest.ofDecimal _ _ _).unique nearest
  have letter' : (decide (c = '.') || decide (c = 'e') || decide (c = 'E')) = true := by
    simpa [or_assoc] using letter
  have read := after.fraction? power
  rw [number?_decimal sign before ends, decimal?, before.decimalDigits? stops]
  rw [front] at read ⊢
  simp only [Option.bind_eq_bind, Option.bind_some, if_pos letter', read, power.exponent?, same]

/-- A float is read. -/
theorem WrittenFloat.number? {x : Binary64} {s : List Char} (written : WrittenFloat x s) :
    number? s = some (.float x, []) := by
  cases written with
  | decimal written finite => rw [written.number?, if_neg finite]
  | infinity sign =>
    rw [number?_plain (sign.noMoment (noMoment_cons rfl _)) (sign.no_base (by decide)), plain?,
      sign.sign (by decide) (by decide)]
    rfl
  | nan sign =>
    rw [number?_plain (sign.noMoment (noMoment_cons rfl _)) (sign.no_base (by decide)), plain?,
      sign.sign (by decide) (by decide)]
    rfl

end VipHost.Toml
