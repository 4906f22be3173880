import VipHost.Proofs.ValueEnds
import VipHost.Proofs.WrittenNumbers

/-!
# How texts are written

The grammar of texts (`WrittenText`): in double quotes with escapes (`Quoted`), in single quotes as
they are, and in three quotes over several lines (`Between`), where one or two quotes are just
quotes, a line end is one newline however it is written, and between double quotes a backslash takes
a line end back.  Together with numbers and booleans these are the values without parts
(`Scalar.WrittenAs`).

The grammar goes character by character, and the readers take runs of characters at once;
`flat?_char` says that this comes to the same.  So what is written for a value is read as that
value (`Scalar.WrittenAs.value?`).
-/

namespace VipHost.Toml

/-! ## Texts on one line -/

/-- A line end. -/
inductive NewLine : List Char → Prop where
  | feed : NewLine ['\n']
  | carriageReturn : NewLine ['\r', '\n']

/-- A text that does not begin with a line end. -/
def NoLine (s : List Char) : Prop := ∀ w rest, NewLine w → s ≠ w ++ rest

/-- Blanks and line ends. -/
inductive BlankLines : List Char → Prop where
  | nil : BlankLines []
  | blank {c : Char} {s : List Char} (blank : isBlank c = true) (more : BlankLines s) :
      BlankLines (c :: s)
  | line {w s : List Char} (ends : NewLine w) (more : BlankLines s) : BlankLines (w ++ s)

/-- What a character is written as after a backslash. -/
inductive Escape : Char → List Char → Prop where
  | backspace : Escape '\x08' ['b']
  | tab : Escape '\t' ['t']
  | feed : Escape '\n' ['n']
  | formFeed : Escape '\x0c' ['f']
  | carriageReturn : Escape '\r' ['r']
  | quote : Escape '"' ['"']
  | backslash : Escape '\\' ['\\']
  | short {digits : List Char} (hexadecimal : ∀ d ∈ digits, isHexDigit d = true)
      (length : digits.length = 4) (valid : (numberOfDigits 16 digits).isValidChar) :
      Escape (Char.ofNat (numberOfDigits 16 digits)) ('u' :: digits)
  | long {digits : List Char} (hexadecimal : ∀ d ∈ digits, isHexDigit d = true)
      (length : digits.length = 8) (valid : (numberOfDigits 16 digits).isValidChar) :
      Escape (Char.ofNat (numberOfDigits 16 digits)) ('U' :: digits)

/-- What a text is written as between double quotes. -/
inductive Quoted : List Char → List Char → Prop where
  | nil : Quoted [] []
  | char {c : Char} {t s : List Char} (plain : isBasicChar c = true) (more : Quoted t s) :
      Quoted (c :: t) (c :: s)
  | escape {c : Char} {w t s : List Char} (escape : Escape c w) (more : Quoted t s) :
      Quoted (c :: t) ('\\' :: (w ++ s))

/-! ## Texts on several lines -/

/-- What a piece of a text is written as between three single quotes, in front of a rest. -/
inductive LiteralPiece : List Char → List Char → List Char → Prop where
  | line {w s : List Char} (ends : NewLine w) : LiteralPiece ['\n'] w s
  | char {c : Char} {s : List Char} (plain : isLiteralChar c = true) : LiteralPiece [c] [c] s

/-- What a piece of a text is written as between three double quotes, in front of a rest. -/
inductive BasicPiece : List Char → List Char → List Char → Prop where
  | line {w s : List Char} (ends : NewLine w) : BasicPiece ['\n'] w s
  | char {c : Char} {s : List Char} (plain : isBasicChar c = true) : BasicPiece [c] [c] s
  | escape {c : Char} {w s : List Char} (escape : Escape c w) : BasicPiece [c] ('\\' :: w) s
  /-- A backslash takes back the line end and all blanks and line ends after it. -/
  | joined {blanks w gap s : List Char} (blank : ∀ c ∈ blanks, isBlank c = true)
      (ends : NewLine w) (lines : BlankLines gap)
      (noBlank : ∀ c rest, s = c :: rest → isBlank c = false) (noLine : NoLine s) :
      BasicPiece [] ('\\' :: (blanks ++ (w ++ gap))) s

/-- What a text is written as after three quotes, with the three quotes that end it.  Up to two
quotes may stand in front of a piece or of those. -/
inductive Between (quote : Char) (Piece : List Char → List Char → List Char → Prop) :
    List Char → List Char → Prop where
  | close {n : Nat} (few : n ≤ 2) :
      Between quote Piece (List.replicate n quote) (List.replicate (n + 3) quote)
  | piece {n : Nat} {u w t s : List Char} (few : n ≤ 2) (piece : Piece u w s)
      (more : Between quote Piece t s) :
      Between quote Piece (List.replicate n quote ++ (u ++ t)) (List.replicate n quote ++ (w ++ s))

/-- The line end that may come right after three quotes.  Without it the text does not begin with
one. -/
inductive Opening : List Char → List Char → Prop where
  | none {s : List Char} (noLine : NoLine s) : Opening [] s
  | line {w s : List Char} (ends : NewLine w) : Opening w s

/-- A text as it is written, with its quotes. -/
inductive WrittenText : List Char → List Char → Prop where
  | basic {t s : List Char} (quoted : Quoted t s) : WrittenText t ('"' :: (s ++ ['"']))
  | literal {t : List Char} (plain : ∀ c ∈ t, isLiteralChar c = true) :
      WrittenText t ('\'' :: (t ++ ['\'']))
  | multiBasic {t o s : List Char} (opening : Opening o s) (between : Between '"' BasicPiece t s) :
      WrittenText t ('"' :: '"' :: '"' :: (o ++ s))
  | multiLiteral {t o s : List Char} (opening : Opening o s)
      (between : Between '\'' LiteralPiece t s) :
      WrittenText t ('\'' :: '\'' :: '\'' :: (o ++ s))

/-! ## Values without parts -/

/-- A value without parts as it is written.  Integers have 64 bits. -/
inductive Scalar.WrittenAs : Scalar → List Char → Prop where
  | true : WrittenAs (.boolean true) ['t', 'r', 'u', 'e']
  | false : WrittenAs (.boolean false) ['f', 'a', 'l', 's', 'e']
  | integer {n : Int} {s : List Char} (written : WrittenInteger n s)
      (range : -9223372036854775808 ≤ n ∧ n ≤ 9223372036854775807) : WrittenAs (.integer n) s
  | float {x : Binary64} {s : List Char} (written : WrittenFloat x s) : WrittenAs (.float x) s
  | text {t s : List Char} (written : WrittenText t s) : WrittenAs (.text (String.ofList t)) s

/-! ## Reading pieces -/

/-- The pieces of a loop put together. -/
def flat? (step : List Char → Option (Round (List Char))) (s : List Char) :
    Option (List Char × List Char) :=
  (collect step s).map fun (pieces, rest) => (pieces.flatten, rest)

/-- A text with more in front. -/
def withFront (u : List Char) (read : Option (List Char × List Char)) :
    Option (List Char × List Char) :=
  read.map fun (t, rest) => (u ++ t, rest)

section

variable {step : List Char → Option (Round (List Char))} {s : List Char}

theorem flat?_of_more {u rest : List Char} (goes : step s = some (.more u rest))
    (shorter : rest.length < s.length) : flat? step s = withFront u (flat? step rest) := by
  rw [flat?, flat?, collect_of_more goes shorter, withFront]
  cases collect step rest <;> rfl

theorem flat?_of_last {pieces : List (List Char)} {rest : List Char}
    (ends : step s = some (.last pieces rest)) :
    flat? step s = some (pieces.flatten, rest) := by
  rw [flat?, collect_of_last ends]
  rfl

/-- A loop that takes characters in runs reads them as if one by one. -/
theorem flat?_char {p : Char → Bool}
    (runs : ∀ {c : Char}, p c = true → ∀ s, step (c :: s) = some (runOf p (c :: s)))
    {c : Char} (plain : p c = true) (s : List Char) :
    flat? step (c :: s) = withFront [c] (flat? step s) := by
  have shorter (s : List Char) : (s.dropWhile p).length ≤ s.length :=
    (List.dropWhile_sublist p).length_le
  have goes (c : Char) (plain : p c = true) (s : List Char) : flat? step (c :: s) =
      withFront (c :: s.takeWhile p) (flat? step (s.dropWhile p)) := by
    have round := runs plain s
    rw [runOf, List.takeWhile_cons_of_pos plain, List.dropWhile_cons_of_pos plain] at round
    exact flat?_of_more round (Nat.lt_succ_of_le (shorter s))
  rw [goes c plain]
  cases s with
  | nil => rfl
  | cons d s =>
    by_cases more : p d = true
    · rw [List.takeWhile_cons_of_pos more, List.dropWhile_cons_of_pos more, goes d more]
      cases flat? step (s.dropWhile p) <;> rfl
    · rw [List.takeWhile_cons_of_neg more, List.dropWhile_cons_of_neg more]

end

/-! ## Reading texts on one line -/

theorem Escape.escape? {c : Char} {w : List Char} (escape : Escape c w) (s : List Char) :
    escape? (w ++ s) = some (c, s) := by
  have hex {digits : List Char} (hexadecimal : ∀ d ∈ digits, isHexDigit d = true)
      (valid : (numberOfDigits 16 digits).isValidChar) :
      charOfHex? digits = some (Char.ofNat (numberOfDigits 16 digits)) :=
    if_pos (by simpa [List.all_eq_true] using ⟨hexadecimal, valid⟩)
  have enough {digits : List Char} {n : Nat} (length : digits.length = n) :
      ¬ (digits ++ s).length < n := by
    rw [List.length_append, length]
    omega
  cases escape with
  | short hexadecimal length valid =>
    simp only [List.cons_append, Toml.escape?]
    rw [if_neg (enough length), List.take_left' length, List.drop_left' length,
      hex hexadecimal valid]
    rfl
  | long hexadecimal length valid =>
    simp only [List.cons_append, Toml.escape?]
    rw [if_neg (enough length), List.take_left' length, List.drop_left' length,
      hex hexadecimal valid]
    rfl
  | _ => rfl

theorem length_lt_escaped (w s : List Char) : s.length < ('\\' :: (w ++ s)).length := by
  simp only [List.length_cons, List.length_append]
  omega

theorem Quoted.basic? {t s : List Char} (quoted : Quoted t s) (rest : List Char) :
    basic? (s ++ '"' :: rest) = some (t, rest) := by
  show flat? basicStep (s ++ '"' :: rest) = some (t, rest)
  induction quoted with
  | nil =>
    have round : basicStep ('"' :: rest) = some (.last [] rest) := rfl
    exact flat?_of_last round
  | char plain more ih =>
    rw [List.cons_append, flat?_char basicStep_char plain, ih]
    rfl
  | @escape c w t s escape more ih =>
    have round : basicStep ('\\' :: (w ++ (s ++ '"' :: rest))) =
        some (.more [c] (s ++ '"' :: rest)) := by
      rw [basicStep, escape.escape?]
      rfl
    rw [List.cons_append, List.append_assoc, flat?_of_more round (length_lt_escaped w _), ih]
    rfl

theorem literal?_written {t : List Char} (plain : ∀ c ∈ t, isLiteralChar c = true)
    (rest : List Char) : literal? (t ++ '\'' :: rest) = some (t, rest) := by
  have run : (t ++ '\'' :: rest).takeWhile isLiteralChar = t := by
    rw [List.takeWhile_append_of_pos plain, List.takeWhile_cons_of_neg (by decide),
      List.append_nil]
  have left : (t ++ '\'' :: rest).drop t.length = '\'' :: rest := List.drop_left
  simp only [literal?, run, left]

/-! ## Reading texts on several lines -/

theorem NewLine.newline? {w : List Char} (ends : NewLine w) (s : List Char) :
    newline? (w ++ s) = some s := by
  cases ends <;> rfl

theorem NoLine.newline? {s : List Char} (noLine : NoLine s) : newline? s = none := by
  unfold Toml.newline?
  split
  next rest => exact absurd rfl (noLine ['\n'] rest .feed)
  next rest => exact absurd rfl (noLine ['\r', '\n'] rest .carriageReturn)
  next => rfl

theorem Opening.newline? {o s : List Char} (opening : Opening o s) :
    (newline? (o ++ s)).getD (o ++ s) = s := by
  cases opening with
  | none noLine => rw [List.nil_append, noLine.newline?]; rfl
  | line ends => rw [ends.newline?]; rfl

theorem skipBlankLines_solid {s : List Char}
    (noBlank : ∀ c rest, s = c :: rest → isBlank c = false) (noLine : NoLine s) :
    skipBlankLines s = s := by
  cases s with
  | nil => rfl
  | cons c rest =>
    have feed : c ≠ '\n' := by
      rintro rfl
      exact noLine ['\n'] rest .feed rfl
    have carriageReturn : ¬ (c = '\r' && rest.head? = some '\n') = true := by
      intro ends
      obtain ⟨rfl, head⟩ : c = '\r' ∧ rest.head? = some '\n' := by simpa using ends
      obtain ⟨rest, rfl⟩ := List.head?_eq_some_iff.mp head
      exact noLine ['\r', '\n'] rest .carriageReturn rfl
    rw [skipBlankLines, if_neg (by simp [noBlank c rest rfl, feed]), if_neg carriageReturn]

theorem BlankLines.skipBlankLines {gap s : List Char} (lines : BlankLines gap)
    (solid : skipBlankLines s = s) : skipBlankLines (gap ++ s) = s := by
  induction lines with
  | nil => exact solid
  | blank blank more ih => rw [List.cons_append, Toml.skipBlankLines, if_pos (by simp [blank]), ih]
  | line ends more ih =>
    cases ends with
    | feed =>
      rw [List.append_assoc, List.cons_append, List.nil_append, Toml.skipBlankLines,
        if_pos (by decide), ih]
    | carriageReturn =>
      rw [List.append_assoc, List.cons_append, List.cons_append, List.nil_append,
        Toml.skipBlankLines, if_neg (by decide), if_pos (by simp), Toml.skipBlankLines,
        if_pos (by decide), ih]

theorem joinedLine?_written {blanks w gap s : List Char} (blank : ∀ c ∈ blanks, isBlank c = true)
    (ends : NewLine w) (skip : skipBlankLines (gap ++ s) = s) :
    joinedLine? (blanks ++ (w ++ (gap ++ s))) = some s := by
  have front : skipBlanks (blanks ++ (w ++ (gap ++ s))) = w ++ (gap ++ s) := by
    rw [skipBlanks, List.dropWhile_append_of_pos blank]
    cases ends <;> rfl
  rw [joinedLine?, front, ends.newline?, Option.map_some, skip]

section

variable {quote : Char} {other : List Char → Option (Round (List Char))}

/-- Quotes in front of something else. -/
theorem countQuotes_replicate (n : Nat) {s : List Char} (noQuote : ∀ rest, s ≠ quote :: rest) :
    countQuotes quote (List.replicate n quote ++ s) = n := by
  have all : ∀ c ∈ List.replicate n quote, decide (c = quote) = true := by
    intro c inside
    exact decide_eq_true (List.eq_of_mem_replicate inside)
  have none : s.takeWhile (· = quote) = [] := by
    cases s with
    | nil => rfl
    | cons c rest =>
      have differ : c ≠ quote := by
        rintro rfl
        exact noQuote rest rfl
      rw [List.takeWhile_cons_of_neg (by simp [differ])]
  rw [countQuotes, List.takeWhile_append_of_pos all, none, List.append_nil, List.length_replicate]

theorem multiStep_other {c : Char} {s : List Char} (noQuote : c ≠ quote)
    (noLine : NoLine (c :: s)) : multiStep quote other (c :: s) = other (c :: s) := by
  have count : countQuotes quote (c :: s) = 0 :=
    countQuotes_replicate 0 (s := c :: s) fun rest same => noQuote (List.cons.inj same).1
  rw [multiStep, count, noLine.newline?]
  rfl

theorem multiStep_line {w s : List Char} (noQuote : ∀ rest, w ++ s ≠ quote :: rest)
    (ends : NewLine w) : multiStep quote other (w ++ s) = some (.more ['\n'] s) := by
  have count : countQuotes quote (w ++ s) = 0 := countQuotes_replicate 0 noQuote
  rw [multiStep, count, ends.newline?]
  rfl

theorem multiStep_quotes {n : Nat} (some : 0 < n) (few : n ≤ 2) {s : List Char}
    (noQuote : ∀ rest, s ≠ quote :: rest) :
    multiStep quote other (List.replicate n quote ++ s) =
      .some (.more (List.replicate n quote) s) := by
  have left : (List.replicate n quote ++ s).drop n = s := List.drop_left' List.length_replicate
  unfold multiStep
  rw [countQuotes_replicate n noQuote]
  dsimp only
  rw [if_neg (by omega), if_pos some, left]

theorem multiStep_close {n : Nat} (few : n ≤ 2) :
    multiStep quote other (List.replicate (n + 3) quote) =
      some (.last [List.replicate n quote] []) := by
  have count : countQuotes quote (List.replicate (n + 3) quote) = n + 3 := by
    have all : countQuotes quote (List.replicate (n + 3) quote ++ []) = n + 3 :=
      countQuotes_replicate (n + 3) (by simp)
    rwa [List.append_nil] at all
  have taken : min (n + 3) 5 = n + 3 := by omega
  unfold multiStep
  rw [count]
  dsimp only
  rw [if_pos (by omega), taken, Nat.add_sub_cancel, List.drop_eq_nil_of_le (by simp)]

/-- The loop reads a piece for what it is, and the piece does not begin with a quote. -/
def Reads (quote : Char) (other : List Char → Option (Round (List Char)))
    (Piece : List Char → List Char → List Char → Prop) : Prop :=
  ∀ {u w s}, Piece u w s →
    flat? (multiStep quote other) (w ++ s) = withFront u (flat? (multiStep quote other) s) ∧
      ∀ rest, w ++ s ≠ quote :: rest

theorem Between.flat? {Piece : List Char → List Char → List Char → Prop}
    (reads : Reads quote other Piece) {t s : List Char} (between : Between quote Piece t s) :
    flat? (multiStep quote other) s = some (t, []) := by
  induction between with
  | @close n few =>
    rw [flat?_of_last (multiStep_close few)]
    simp
  | @piece n u w t s few piece more ih =>
    obtain ⟨read, noQuote⟩ := reads piece
    obtain rfl | some := Nat.eq_zero_or_pos n
    · rw [List.replicate_zero, List.nil_append, List.nil_append, read, ih]
      rfl
    · have shorter : (w ++ s).length < (List.replicate n quote ++ (w ++ s)).length := by
        simp only [List.length_append, List.length_replicate]
        omega
      rw [flat?_of_more (multiStep_quotes some few noQuote) shorter, read, ih]
      rfl

theorem multi?_written {Piece : List Char → List Char → List Char → Prop}
    (reads : Reads quote other Piece) {t o s : List Char} (opening : Opening o s)
    (between : Between quote Piece t s) : multi? quote other (o ++ s) = some (t, []) := by
  show Toml.flat? (multiStep quote other) ((newline? (o ++ s)).getD (o ++ s)) = some (t, [])
  rw [opening.newline?, between.flat? reads]

end

theorem noLine_cons {c : Char} (feed : c ≠ '\n') (carriageReturn : c ≠ '\r') (s : List Char) :
    NoLine (c :: s) := by
  rintro w rest ends same
  cases ends with
  | feed => exact feed (List.cons.inj same).1
  | carriageReturn => exact carriageReturn (List.cons.inj same).1

theorem NewLine.ne_cons {w : List Char} (ends : NewLine w) {c : Char} (feed : c ≠ '\n')
    (carriageReturn : c ≠ '\r') (s rest : List Char) : w ++ s ≠ c :: rest := by
  intro same
  cases ends with
  | feed => exact feed (List.cons.inj same).1.symm
  | carriageReturn => exact carriageReturn (List.cons.inj same).1.symm

theorem NewLine.length_pos {w : List Char} (ends : NewLine w) : 0 < w.length := by
  cases ends <;> decide

theorem reads_literal : Reads '\'' multiLiteralOther LiteralPiece := by
  intro u w s piece
  cases piece with
  | line ends =>
    have noQuote := ends.ne_cons (c := '\'') (by decide) (by decide) s
    refine ⟨flat?_of_more (multiStep_line noQuote ends) ?_, noQuote⟩
    have := ends.length_pos
    rw [List.length_append]
    omega
  | char plain =>
    have runs {c : Char} (plain : isLiteralChar c = true) (s : List Char) :
        multiStep '\'' multiLiteralOther (c :: s) = some (runOf isLiteralChar (c :: s)) := by
      rw [multiStep_other (ne_of_isLiteralChar plain rfl) (noLine_cons
        (ne_of_isLiteralChar plain rfl) (ne_of_isLiteralChar plain rfl) s),
        multiLiteralOther_char plain]
    exact ⟨flat?_char runs plain s, fun rest same =>
      ne_of_isLiteralChar plain rfl (List.cons.inj same).1⟩

theorem reads_basic : Reads '"' multiBasicOther BasicPiece := by
  have backslash (s : List Char) : multiStep '"' multiBasicOther ('\\' :: s) =
      multiBasicOther ('\\' :: s) :=
    multiStep_other (by decide) (noLine_cons (by decide) (by decide) s)
  intro u w s piece
  cases piece with
  | line ends =>
    have noQuote := ends.ne_cons (c := '"') (by decide) (by decide) s
    refine ⟨flat?_of_more (multiStep_line noQuote ends) ?_, noQuote⟩
    have := ends.length_pos
    rw [List.length_append]
    omega
  | char plain =>
    have runs {c : Char} (plain : isBasicChar c = true) (s : List Char) :
        multiStep '"' multiBasicOther (c :: s) = some (runOf isBasicChar (c :: s)) := by
      rw [multiStep_other (ne_of_isBasicChar plain rfl) (noLine_cons
        (ne_of_isBasicChar plain rfl) (ne_of_isBasicChar plain rfl) s),
        multiBasicOther_char plain]
    exact ⟨flat?_char runs plain s, fun rest same =>
      ne_of_isBasicChar plain rfl (List.cons.inj same).1⟩
  | @escape c w _ escape =>
    have round : multiStep '"' multiBasicOther ('\\' :: (w ++ s)) = some (.more [c] s) := by
      rw [backslash]
      simp only [multiBasicOther, joinedLine?_of_escape? (escape.escape? s), escape.escape? s]
      rfl
    refine ⟨flat?_of_more round (length_lt_escaped _ _), ?_⟩
    intro rest same
    exact absurd (List.cons.inj same).1 (by decide)
  | @joined blanks w gap _ blank ends lines noBlank noLine =>
    have skip := lines.skipBlankLines (skipBlankLines_solid noBlank noLine)
    have round : multiStep '"' multiBasicOther ('\\' :: (blanks ++ (w ++ gap) ++ s)) =
        some (.more [] s) := by
      rw [backslash, List.append_assoc, List.append_assoc]
      simp only [multiBasicOther, joinedLine?_written blank ends skip]
    refine ⟨flat?_of_more round (length_lt_escaped _ _), ?_⟩
    intro rest same
    exact absurd (List.cons.inj same).1 (by decide)

/-! ## Reading values -/

theorem WrittenText.text? {t s : List Char} (written : WrittenText t s) :
    text? s = some (t, []) := by
  cases written with
  | basic quoted =>
    rw [text?_basic ?_, quoted.basic?]
    intro left same
    cases quoted with
    | nil => cases same
    | char plain more =>
      exact ne_of_isBasicChar plain rfl (List.cons.inj same).1
    | escape escape more => exact absurd (List.cons.inj same).1 (by decide)
  | literal plain =>
    rw [text?_literal ?_, literal?_written plain]
    intro left same
    cases t with
    | nil => cases same
    | cons c t =>
      exact ne_of_isLiteralChar (plain c (List.mem_cons_self ..)) rfl (List.cons.inj same).1
  | multiBasic opening between => exact multi?_written reads_basic opening between
  | multiLiteral opening between => exact multi?_written reads_literal opening between

theorem noWord_of_number? {s : List Char} {read : Scalar × List Char}
    (number : number? s = some read) : NoWord s := by
  have failed {c : Char} (names : c = 't' ∨ c = 'f' ∨ c = '"' ∨ c = '\'') (s : List Char) :
      number? (c :: s) = none := by
    obtain rfl | rfl | rfl | rfl := names <;>
      simp [number?, moment?, year?, hour?, field?, sign, decimal?, decimalDigits?, digits?]
  have other {c : Char} (names : c = 't' ∨ c = 'f' ∨ c = '"' ∨ c = '\'') (rest : List Char) :
      s ≠ c :: rest := by
    rintro rfl
    rw [failed names] at number
    cases number
  exact ⟨fun _ => other (by decide) _, fun _ => other (by decide) _, fun _ => other (by decide) _,
    fun _ => other (by decide) _⟩

/-- A value without parts is read as what it is written for. -/
theorem Scalar.WrittenAs.scalar? {v : Scalar} {s : List Char} (written : v.WrittenAs s) :
    scalar? s = some (v, []) := by
  cases written with
  | true => rfl
  | false => rfl
  | integer written range =>
    have number := written.number? range
    rw [scalar?_number (noWord_of_number? number), number]
  | float written =>
    have number := written.number?
    rw [scalar?_number (noWord_of_number? number), number]
  | text written =>
    have text := written.text?
    cases written <;> simp [Toml.scalar?, text]

/-- So it is a value at any depth. -/
theorem Scalar.WrittenAs.value? {v : Scalar} {s : List Char} (written : v.WrittenAs s)
    (depth : Nat) : value? depth s = some (.scalar ⟨s.length, 0⟩ v, []) := by
  have scalar := written.scalar?
  have failed {c : Char} (opens : c = '[' ∨ c = '\x7b') (s : List Char) :
      Toml.scalar? (c :: s) = none := by
    obtain rfl | rfl := opens <;>
      simp [Toml.scalar?, Toml.number?, moment?, year?, hour?, field?, sign, decimal?,
        decimalDigits?, digits?]
  have other {c : Char} (opens : c = '[' ∨ c = '\x7b') (rest : List Char) : s ≠ c :: rest := by
    rintro rfl
    rw [failed opens] at scalar
    cases scalar
  rw [value?_leaf (other (.inl rfl)) (other (.inr rfl)), leaf?, scalar]
  rfl

/-- A decimal too large for every double is no value. -/
theorem WrittenDecimal.value?_eq_none {s : List Char}
    (written : WrittenDecimal (.infinity false) s) (depth : Nat) : value? depth s = none := by
  have number := written.number?
  rw [if_pos rfl] at number
  obtain ⟨c, t, rfl, first⟩ := written.exists_cons
  have other {d : Char} (noDigit : d.isDigit = false) (plus : '+' ≠ d) (minus : '-' ≠ d)
      (rest : List Char) : c :: t ≠ d :: rest := by
    intro same
    cases same
    obtain digit | rfl | rfl := first
    · exact absurd (digit.symm.trans noDigit) (by decide)
    · exact plus rfl
    · exact minus rfl
  have noWord : NoWord (c :: t) :=
    ⟨fun _ => other rfl (by decide) (by decide) _, fun _ => other rfl (by decide) (by decide) _,
      fun _ => other rfl (by decide) (by decide) _, fun _ => other rfl (by decide) (by decide) _⟩
  rw [value?_leaf (other rfl (by decide) (by decide)) (other rfl (by decide) (by decide)), leaf?,
    scalar?_number noWord, number]
  rfl

end VipHost.Toml
