import VipHost.Toml.Number

/-!
# Where a number ends

A reader sees all the text that is left, so what it makes of a number could depend on what comes
after the number.  It does not, if a comma, a bracket, a blank, a comment or the end of the line
comes next (`Follows`): then a reader gives what it gives on the number alone, and leaves the text
after it (`number?_append`).  The lemmas for the parts of a number or a moment are equations,
so they also say that a text refused on its own is refused.

A blank is taken into a date when a time comes after it, which is why the text after a blank
counts.
-/

namespace VipHost.Toml

/-! ## What may follow -/

/-- A character that ends a value. -/
def endsValue (c : Char) : Bool :=
  c = ',' || c = ']' || c = '\x7d' || c = '#' || c = '\n' || c = '\r' || isBlank c

/-- What may follow a value.  There is no time after a blank, as a date would take it for its
own. -/
inductive Follows : List Char → Prop where
  | mk {c : Char} {tail : List Char} (ends : endsValue c = true)
      (noTime : c = ' ' → hour? tail = none) : Follows (c :: tail)

theorem Follows.of_ne_blank {c : Char} (ends : endsValue c = true) (noBlank : c ≠ ' ')
    (tail : List Char) : Follows (c :: tail) :=
  .mk ends fun same => absurd same noBlank

/-- A class of characters none of which ends a value. -/
def Inner (p : Char → Bool) : Prop := ∀ c, endsValue c = true → p c = false

theorem ne_of_endsValue {c d : Char} (ends : endsValue c = true)
    (other : endsValue d = false) : c ≠ d := by
  rintro rfl
  rw [ends] at other
  cases other

theorem endsValue_cases {c : Char} (ends : endsValue c = true) :
    c = ',' ∨ c = ']' ∨ c = '\x7d' ∨ c = '#' ∨ c = '\n' ∨ c = '\r' ∨ c = ' ' ∨ c = '\t' := by
  simpa [endsValue, isBlank, or_assoc] using ends

theorem inner_isDigit : Inner Char.isDigit := by
  intro c ends
  obtain rfl | rfl | rfl | rfl | rfl | rfl | rfl | rfl := endsValue_cases ends <;> rfl

theorem inner_isHexDigit : Inner isHexDigit := by
  intro c ends
  obtain rfl | rfl | rfl | rfl | rfl | rfl | rfl | rfl := endsValue_cases ends <;> rfl

theorem inner_isOctalDigit : Inner isOctalDigit := by
  intro c ends
  obtain rfl | rfl | rfl | rfl | rfl | rfl | rfl | rfl := endsValue_cases ends <;> rfl

theorem inner_isBinaryDigit : Inner isBinaryDigit := by
  intro c ends
  obtain rfl | rfl | rfl | rfl | rfl | rfl | rfl | rfl := endsValue_cases ends <;> rfl

/-- The same result with more text left. -/
def further {α : Type} (e : List Char) (read : Option (α × List Char)) : Option (α × List Char) :=
  read.map fun (a, left) => (a, left ++ e)

/-- Readers in sequence. -/
theorem bind_append {β γ : Type} {first first' : Option β} {more : β → β} {next : β → Option γ}
    {more' : γ → γ} (before : first' = first.map more)
    (after : ∀ b, next (more b) = (next b).map more') :
    (first' >>= next) = (first >>= next).map more' := by
  rw [before]
  cases first with
  | none => rfl
  | some b => exact after b

section

variable {s e : List Char} (follows : Follows e)
include follows

theorem takeWhile_append_of_follows {p : Char → Bool} (inner : Inner p) :
    (s ++ e).takeWhile p = s.takeWhile p := by
  induction s with
  | nil =>
    obtain ⟨ends, _⟩ := follows
    exact List.takeWhile_cons_of_neg (by simp [inner _ ends])
  | cons c s ih => rw [List.cons_append, List.takeWhile_cons, List.takeWhile_cons, ih]

theorem dropWhile_append_of_follows {p : Char → Bool} (inner : Inner p) :
    (s ++ e).dropWhile p = s.dropWhile p ++ e := by
  induction s with
  | nil =>
    obtain ⟨ends, _⟩ := follows
    exact List.dropWhile_cons_of_neg (by simp [inner _ ends])
  | cons c s ih =>
    rw [List.cons_append, List.dropWhile_cons, List.dropWhile_cons, ih]
    split <;> rfl

/-! ## Moments -/

theorem field?_append (width least greatest : Nat) :
    field? width least greatest (s ++ e) = further e (field? width least greatest s) := by
  by_cases enough : width ≤ s.length
  · rw [field?, field?, List.take_append_of_le_length enough, List.drop_append_of_le_length enough]
    split <;> rfl
  · -- the text is too short, and what follows begins with no digit
    have left : field? width least greatest s = none := by
      simp [field?]
      omega
    rw [left, field?]
    refine if_neg ?_
    simp only [Bool.and_eq_true, List.all_eq_true]
    rintro ⟨⟨⟨_, all⟩, _⟩, _⟩
    obtain @⟨c, tail, ends, _⟩ := follows
    have inside : c ∈ (s ++ c :: tail).take width := by
      rw [List.take_append, show width - s.length = width - s.length - 1 + 1 by omega,
        List.take_succ_cons]
      simp
    cases (inner_isDigit c ends).symm.trans (all c inside)

theorem char?_append {c : Char} (other : endsValue c = false) :
    char? c (s ++ e) = (char? c s).map (· ++ e) := by
  cases s with
  | nil =>
    obtain ⟨ends, _⟩ := follows
    exact if_neg (ne_of_endsValue ends other).symm
  | cons d s =>
    rw [List.cons_append, char?, char?]
    split <;> rfl

theorem year?_append : year? (s ++ e) = further e (year? s) :=
  bind_append (field?_append follows _ _ _) fun (_, _) =>
    bind_append (char?_append follows rfl) fun _ => rfl

theorem monthAndDay?_append (year : Nat) :
    monthAndDay? year (s ++ e) = (monthAndDay? year s).map (· ++ e) :=
  bind_append (field?_append follows _ _ _) fun (_, _) =>
    bind_append (char?_append follows rfl) fun _ =>
      bind_append (field?_append follows _ _ _) fun (_, _) => by
        dsimp only
        split <;> rfl

theorem hour?_append : hour? (s ++ e) = (hour? s).map (· ++ e) :=
  bind_append (field?_append follows _ _ _) fun (_, _) => char?_append follows rfl

theorem minuteAndSecond?_append :
    minuteAndSecond? (s ++ e) = (minuteAndSecond? s).map (· ++ e) := by
  refine bind_append (field?_append follows _ _ _) fun (_, _) =>
    bind_append (char?_append follows rfl) fun _ =>
      bind_append (field?_append follows _ _ _) fun (_, left) => ?_
  dsimp only
  cases left with
  | nil =>
    obtain ⟨ends, _⟩ := follows
    simp [ne_of_endsValue ends (d := '.') rfl]
  | cons c left =>
    by_cases point : c = '.'
    · subst point
      show (if ((left ++ e).takeWhile Char.isDigit).isEmpty then some ('.' :: (left ++ e))
        else some ((left ++ e).dropWhile Char.isDigit)) = Option.map (· ++ e)
          (if (left.takeWhile Char.isDigit).isEmpty then some ('.' :: left)
            else some (left.dropWhile Char.isDigit))
      rw [takeWhile_append_of_follows follows inner_isDigit,
        dropWhile_append_of_follows follows inner_isDigit]
      split <;> rfl
    · simp [point]

theorem offset?_append : offset? (s ++ e) = (offset? s).map (· ++ e) := by
  cases s with
  | nil =>
    obtain ⟨ends, _⟩ := follows
    simp [offset?, ne_of_endsValue ends (d := 'Z') rfl, ne_of_endsValue ends (d := 'z') rfl,
      ne_of_endsValue ends (d := '+') rfl, ne_of_endsValue ends (d := '-') rfl]
  | cons c s =>
    by_cases zulu : c = 'Z' ∨ c = 'z'
    · obtain rfl | rfl := zulu <;> rfl
    · obtain ⟨upper, lower⟩ := not_or.mp zulu
      simp only [offset?, List.cons_append]
      split
      · exact bind_append (hour?_append follows) fun _ =>
          bind_append (field?_append follows _ _ _) fun (_, _) => rfl
      · rfl

theorem timeAfterDate?_append : timeAfterDate? (s ++ e) = (timeAfterDate? s).map (· ++ e) := by
  cases s with
  | nil =>
    obtain ⟨ends, noTime⟩ := follows
    simp only [List.nil_append, timeAfterDate?]
    split
    next begins =>
      simp [ne_of_endsValue ends (d := 'T') rfl, ne_of_endsValue ends (d := 't') rfl] at begins
      rw [noTime begins]
      rfl
    next => rfl
  | cons c s =>
    rw [List.cons_append, timeAfterDate?, timeAfterDate?, hour?_append follows]
    split
    · cases hour? s with
      | none => rfl
      | some left =>
        exact bind_append (minuteAndSecond?_append follows) fun _ => offset?_append follows
    · rfl

theorem moment?_append : moment? (s ++ e) = (moment? s).map (Option.map (· ++ e)) := by
  rw [moment?, moment?, year?_append follows, hour?_append follows]
  cases year? s with
  | none =>
    cases hour? s with
    | none => rfl
    | some left => exact congrArg some (minuteAndSecond?_append follows)
  | some read =>
    obtain ⟨year, left⟩ := read
    exact congrArg some
      (bind_append (monthAndDay?_append follows year) fun _ => timeAfterDate?_append follows)

/-! ## Numbers -/

theorem moreDigits_of_follows {isDigit : Char → Bool} (inner : Inner isDigit) :
    moreDigits isDigit e = some ([], e) := by
  obtain @⟨c, tail, ends, _⟩ := follows
  cases tail <;> simp [moreDigits, inner c ends, ne_of_endsValue ends (d := '_') rfl]

theorem moreDigits_append {isDigit : Char → Bool} (inner : Inner isDigit) :
    moreDigits isDigit (s ++ e) = further e (moreDigits isDigit s) := by
  fun_induction moreDigits isDigit s with
  | case1 => exact moreDigits_of_follows follows inner
  | case2 c digit =>
    have none := moreDigits_of_follows follows inner
    obtain @⟨d, tail, ends, _⟩ := follows
    simp [moreDigits, digit, none, further]
  | case3 noDigit =>
    obtain @⟨d, tail, ends, _⟩ := follows
    have noDigit : isDigit '_' = false := by simpa using noDigit
    simp [moreDigits, noDigit, inner d ends, further]
  | case4 c noDigit other =>
    obtain @⟨d, tail, ends, _⟩ := follows
    simp [moreDigits, noDigit, other, further]
  | case5 c d s digit ih =>
    rw [List.cons_append] at ih
    simp [moreDigits, digit, ih, further, Function.comp_def]
  | case6 d s other digit ih =>
    simp [moreDigits, other, digit, ih, further, Function.comp_def]
  | case7 d s other noDigit => simp [moreDigits, other, noDigit, further]
  | case8 c d s noDigit other => simp [moreDigits, noDigit, other, further]

theorem digits?_append {isDigit : Char → Bool} (inner : Inner isDigit) :
    digits? isDigit (s ++ e) = further e (digits? isDigit s) := by
  cases s with
  | nil =>
    obtain ⟨ends, _⟩ := follows
    simp [digits?, inner _ ends, further]
  | cons c s =>
    rw [List.cons_append, digits?, digits?, ← List.cons_append, moreDigits_append follows inner]
    split <;> rfl

theorem sign_append : sign (s ++ e) = ((sign s).1, (sign s).2 ++ e) := by
  cases s with
  | nil =>
    obtain ⟨ends, _⟩ := follows
    simp [sign, ne_of_endsValue ends (d := '+') rfl, ne_of_endsValue ends (d := '-') rfl]
  | cons c s =>
    by_cases signed : c = '-' ∨ c = '+'
    · obtain rfl | rfl := signed <;> rfl
    · obtain ⟨minus, plus⟩ := not_or.mp signed
      simp [sign, minus, plus]

theorem decimalDigits?_append : decimalDigits? (s ++ e) = further e (decimalDigits? s) := by
  have more := digits?_append follows inner_isDigit (s := s)
  cases s with
  | nil =>
    obtain ⟨ends, _⟩ := follows
    simpa [decimalDigits?, ne_of_endsValue ends (d := '0') rfl] using more
  | cons c s =>
    by_cases zero : c = '0'
    · subst zero
      rfl
    · simpa [decimalDigits?, zero] using more

theorem fraction?_append : fraction? (s ++ e) = further e (fraction? s) := by
  cases s with
  | nil =>
    obtain ⟨ends, _⟩ := follows
    simp [fraction?, ne_of_endsValue ends (d := '.') rfl, further]
  | cons c s =>
    by_cases point : c = '.'
    · subst point
      exact digits?_append follows inner_isDigit
    · simp [fraction?, point, further]

theorem exponent?_append : exponent? (s ++ e) = further e (exponent? s) := by
  cases s with
  | nil =>
    obtain ⟨ends, _⟩ := follows
    simp [exponent?, ne_of_endsValue ends (d := 'e') rfl, ne_of_endsValue ends (d := 'E') rfl,
      further]
  | cons c s =>
    rw [List.cons_append, exponent?, exponent?]
    split
    · rw [sign_append follows]
      exact bind_append (digits?_append follows inner_isDigit) fun _ => rfl
    · rfl

theorem basedInteger?_append {isDigit : Char → Bool} (inner : Inner isDigit) (base : Nat) :
    basedInteger? base isDigit (s ++ e) = further e (basedInteger? base isDigit s) := by
  refine bind_append (digits?_append follows inner) fun (digits, left) => ?_
  dsimp only
  cases integerInRange (numberOfDigits base digits) <;> rfl

omit follows in
theorem integer_append (negative : Bool) (whole : List Char) :
    decimal?.integer negative whole (s ++ e) = further e (decimal?.integer negative whole s) := by
  simp only [decimal?.integer]
  cases integerInRange _ <;> rfl

theorem decimal?_append (negative : Bool) :
    decimal? negative (s ++ e) = further e (decimal? negative s) := by
  refine bind_append (decimalDigits?_append follows) fun (digits, left) => ?_
  dsimp only
  cases left with
  | nil =>
    have same := integer_append (s := []) (e := e) negative digits
    obtain ⟨ends, _⟩ := follows
    simpa [ne_of_endsValue ends (d := '.') rfl, ne_of_endsValue ends (d := 'e') rfl,
      ne_of_endsValue ends (d := 'E') rfl, further] using same
  | cons c left =>
    rw [List.cons_append]
    dsimp only
    split
    · rw [← List.cons_append]
      refine bind_append (fraction?_append follows) fun (fraction, left) =>
        bind_append (exponent?_append follows) fun (exponent, left) => ?_
      dsimp only
      split <;> rfl
    · exact integer_append (s := c :: left) negative digits

/-- What a text begins with is not taken from what follows. -/
theorem exists_of_append_eq (begins : List Char) {rest : List Char}
    (inner : begins.any endsValue = false) (same : s ++ e = begins ++ rest) :
    ∃ left, s = begins ++ left := by
  obtain ⟨left, here, more⟩ | ⟨left, here, _⟩ := List.append_eq_append_iff.mp same
  · cases left with
    | nil => exact ⟨[], by simpa using here.symm⟩
    | cons c left =>
      obtain ⟨ends, _⟩ := follows
      obtain ⟨rfl, _⟩ := List.cons.inj more
      rw [here, List.any_append, List.any_cons, ends, Bool.true_or, Bool.or_true] at inner
      cases inner
  · exact ⟨left, here⟩

/-- A number without a base in front. -/
def plain? (s : List Char) : Option (Scalar × List Char) :=
  match sign s with
  | (negative, 'i' :: 'n' :: 'f' :: rest) => some (.float (.infinity negative), rest)
  | (_, 'n' :: 'a' :: 'n' :: rest) => some (.float .nan, rest)
  | (negative, rest) => decimal? negative rest

theorem plain?_append : plain? (s ++ e) = further e (plain? s) := by
  unfold plain?
  rw [sign_append follows]
  obtain ⟨negative, t⟩ := sign s
  dsimp only
  split
  next same =>
    obtain ⟨rfl, here⟩ := Prod.mk.inj same
    obtain ⟨left, rfl⟩ := exists_of_append_eq follows ['i', 'n', 'f'] (by decide) here
    cases here
    rfl
  next same =>
    obtain ⟨rfl, here⟩ := Prod.mk.inj same
    obtain ⟨left, rfl⟩ := exists_of_append_eq follows ['n', 'a', 'n'] (by decide) here
    cases here
    rfl
  next noInf noNan same =>
    obtain ⟨rfl, rfl⟩ := Prod.mk.inj same
    split
    next same =>
      cases same
      exact (noInf _ rfl).elim
    next same =>
      cases same
      exact (noNan _ rfl).elim
    next same =>
      cases same
      exact decimal?_append follows _

theorem number?_append : number? (s ++ e) = further e (number? s) := by
  unfold number?
  rw [moment?_append follows]
  cases moment? s with
  | some rest => cases rest <;> rfl
  | none =>
    dsimp only [Option.map_none]
    symm
    split
    next => exact (basedInteger?_append follows inner_isHexDigit 16).symm
    next => exact (basedInteger?_append follows inner_isOctalDigit 8).symm
    next => exact (basedInteger?_append follows inner_isBinaryDigit 2).symm
    next noHex noOctal noBinary =>
      symm
      split
      next same =>
        obtain ⟨left, rfl⟩ := exists_of_append_eq follows ['0', 'x'] (by decide) same
        exact (noHex left rfl).elim
      next same =>
        obtain ⟨left, rfl⟩ := exists_of_append_eq follows ['0', 'o'] (by decide) same
        exact (noOctal left rfl).elim
      next same =>
        obtain ⟨left, rfl⟩ := exists_of_append_eq follows ['0', 'b'] (by decide) same
        exact (noBinary left rfl).elim
      next => exact plain?_append follows

end

end VipHost.Toml
