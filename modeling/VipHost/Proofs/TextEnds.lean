import VipHost.Proofs.NumberEnds
import VipHost.Toml.Reader

/-!
# Where a text ends

A text ends with its quotes.  Between single quotes or double ones the first quote that is no
escape ends it, whatever comes after (`basic?_append`, `literal?_append`).  After three quotes up
to two more may belong to the text, so there no quote may come next (`multi?_append`); nothing
that `Follows` a value is one.

A loop of rounds is carried over round by round (`collect_append`).  A round that takes a run of
characters up to the end of the text, or the first half of a line end, would be another one with
more text after it; but no round comes after it then, and the text is refused on its own.
-/

namespace VipHost.Toml

/-! ## Loops -/

/-- A loop with more text after it goes through the same rounds.  A round that is not the last may
be taken to be followed by one that does not fail. -/
theorem collect_append {α : Type} {step : List Char → Option (Round α)} {e left : List Char}
    {f : α → α}
    (last : ∀ {s pieces}, step s = some (.last pieces left) →
      step (s ++ e) = some (.last (pieces.map f) (left ++ e)))
    (more : ∀ {s piece rest}, step s = some (.more piece rest) → step rest ≠ none →
      step (s ++ e) = some (.more (f piece) (rest ++ e)))
    {s : List Char} {pieces : List α} (read : collect step s = some (pieces, left)) :
    collect step (s ++ e) = some (pieces.map f, left ++ e) := by
  fun_induction collect step s generalizing pieces with
  | case1 s failed => cases read
  | case2 s pieces rest ends =>
    cases read
    exact collect_of_last (last ends)
  | case3 s piece rest goes shorter ih =>
    obtain ⟨⟨others, left⟩, further, same⟩ := Option.map_eq_some_iff.mp read
    cases same
    have next : step rest ≠ none := by
      intro failed
      rw [collect_of_none failed] at further
      cases further
    rw [collect_of_more (more goes next) (by simpa using shorter), ih further]
    rfl
  | case4 s piece rest goes longer => cases read

theorem drop_length_takeWhile (p : Char → Bool) (s : List Char) :
    s.drop (s.takeWhile p).length = s.dropWhile p := by
  induction s with
  | nil => rfl
  | cons c s ih =>
    rw [List.takeWhile_cons, List.dropWhile_cons]
    split
    · exact ih
    · rfl

section

variable {p : Char → Bool} {s e : List Char} (something : s.dropWhile p ≠ [])
include something

/-- A run that something else comes after ends there. -/
theorem takeWhile_append_of_dropWhile_ne_nil : (s ++ e).takeWhile p = s.takeWhile p := by
  induction s with
  | nil => exact absurd rfl something
  | cons c s ih =>
    rw [List.dropWhile_cons] at something
    rw [List.cons_append, List.takeWhile_cons, List.takeWhile_cons]
    split
    next inside => rw [ih (by rwa [if_pos inside] at something)]
    next => rfl

theorem dropWhile_append_of_dropWhile_ne_nil : (s ++ e).dropWhile p = s.dropWhile p ++ e := by
  induction s with
  | nil => exact absurd rfl something
  | cons c s ih =>
    rw [List.dropWhile_cons] at something
    rw [List.cons_append, List.dropWhile_cons, List.dropWhile_cons]
    split
    next inside => rw [ih (by rwa [if_pos inside] at something)]
    next => rfl

end

/-! ## Texts -/

theorem escape?_append {s e : List Char} {c : Char} {left : List Char}
    (read : escape? s = some (c, left)) : escape? (s ++ e) = some (c, left ++ e) := by
  unfold escape? at read
  split at read
  case h_8 rest =>
    split at read
    next => cases read
    next enough =>
      have enough : 4 ≤ rest.length := Nat.not_lt.mp enough
      obtain ⟨d, digit, same⟩ := Option.map_eq_some_iff.mp read
      cases same
      have longer : ¬ (rest ++ e).length < 4 := by
        rw [List.length_append]
        omega
      simp only [escape?, List.cons_append]
      rw [if_neg longer, List.take_append_of_le_length enough,
        List.drop_append_of_le_length enough, digit]
      rfl
  case h_9 rest =>
    split at read
    next => cases read
    next enough =>
      have enough : 8 ≤ rest.length := Nat.not_lt.mp enough
      obtain ⟨d, digit, same⟩ := Option.map_eq_some_iff.mp read
      cases same
      have longer : ¬ (rest ++ e).length < 8 := by
        rw [List.length_append]
        omega
      simp only [escape?, List.cons_append]
      rw [if_neg longer, List.take_append_of_le_length enough,
        List.drop_append_of_le_length enough, digit]
      rfl
  case h_10 => cases read
  all_goals
    cases read
    rfl

/-- A round that takes a run of characters. -/
def runOf (p : Char → Bool) (s : List Char) : Round (List Char) :=
  .more (s.takeWhile p) (s.dropWhile p)

theorem run_eq_some_iff {p : Char → Bool} {s : List Char} {round : Round (List Char)} :
    (if (s.takeWhile p).isEmpty then none
      else some (Round.more (s.takeWhile p) (s.drop (s.takeWhile p).length))) = some round ↔
      (∃ c t, s = c :: t ∧ p c = true) ∧ round = runOf p s := by
  rw [drop_length_takeWhile]
  cases s with
  | nil => simp
  | cons c t =>
    cases first : p c with
    | false => simp [first]
    | true =>
      have any : ¬ ((c :: t).takeWhile p).isEmpty = true := by simp [first]
      rw [if_neg any, Option.some.injEq, runOf, eq_comm]
      exact ⟨fun same => ⟨⟨c, t, rfl, first⟩, same⟩, And.right⟩

theorem runOf_append {p : Char → Bool} {s e rest : List Char} {piece : List Char}
    (goes : .more piece rest = runOf p s) (something : rest ≠ []) :
    runOf p (s ++ e) = .more piece (rest ++ e) := by
  cases goes
  rw [runOf, takeWhile_append_of_dropWhile_ne_nil something,
    dropWhile_append_of_dropWhile_ne_nil something]

theorem ne_nil_of_step {α : Type} {step : List Char → Option (Round α)} {s : List Char}
    (none : step [] = none) (next : step s ≠ .none) : s ≠ [] := by
  rintro rfl
  exact next none

/-- The rounds between double quotes. -/
theorem basicStep_cases {s : List Char} {round : Round (List Char)}
    (goes : basicStep s = some round) :
    (∃ rest, s = '"' :: rest ∧ round = .last [] rest) ∨
      (∃ rest c left, s = '\\' :: rest ∧ escape? rest = some (c, left) ∧
        round = .more [c] left) ∨
      (∃ c t, s = c :: t ∧ isBasicChar c = true) ∧ round = runOf isBasicChar s := by
  unfold basicStep at goes
  split at goes
  next rest =>
    cases goes
    exact .inl ⟨rest, rfl, rfl⟩
  next rest =>
    obtain ⟨⟨c, left⟩, escaped, rfl⟩ := Option.map_eq_some_iff.mp goes
    exact .inr (.inl ⟨rest, c, left, rfl, escaped, rfl⟩)
  next => exact .inr (.inr (run_eq_some_iff.mp goes))

theorem ne_of_isBasicChar {c d : Char} (plain : isBasicChar c = true)
    (other : isBasicChar d = false) : c ≠ d := by
  rintro rfl
  rw [plain] at other
  cases other

theorem basicStep_char {c : Char} (plain : isBasicChar c = true) (s : List Char) :
    basicStep (c :: s) = some (runOf isBasicChar (c :: s)) := by
  unfold basicStep
  split
  next same => exact absurd (List.cons.inj same).1 (ne_of_isBasicChar plain rfl)
  next same => exact absurd (List.cons.inj same).1 (ne_of_isBasicChar plain rfl)
  next => exact run_eq_some_iff.mpr ⟨⟨c, s, rfl, plain⟩, rfl⟩

theorem basic?_append {s e t left : List Char} (read : basic? s = some (t, left)) :
    basic? (s ++ e) = some (t, left ++ e) := by
  obtain ⟨⟨pieces, left⟩, rounds, same⟩ := Option.map_eq_some_iff.mp read
  cases same
  rw [basic?, collect_append (f := id) ?_ ?_ rounds, List.map_id]
  · rfl
  · intro s pieces ends
    obtain ⟨rest, rfl, same⟩ | ⟨rest, c, left, _, _, same⟩ | ⟨_, same⟩ := basicStep_cases ends
    · cases same
      rfl
    · cases same
    · cases same
  · intro s piece rest goes next
    have something : rest ≠ [] := ne_nil_of_step (by decide) next
    obtain ⟨rest, rfl, same⟩ | ⟨rest, c, left, rfl, escaped, same⟩ | ⟨⟨c, t, rfl, plain⟩, same⟩ :=
      basicStep_cases goes
    · cases same
    · cases same
      rw [List.cons_append, basicStep, escape?_append escaped]
      rfl
    · rw [List.cons_append, basicStep_char plain, ← List.cons_append, runOf_append same something]
      rfl

theorem literal?_append {s e t left : List Char} (read : literal? s = some (t, left)) :
    literal? (s ++ e) = some (t, left ++ e) := by
  simp only [literal?, drop_length_takeWhile] at read ⊢
  split at read
  next rest ends =>
    cases read
    have something : s.dropWhile isLiteralChar ≠ [] := by simp [ends]
    rw [takeWhile_append_of_dropWhile_ne_nil something,
      dropWhile_append_of_dropWhile_ne_nil something, ends]
    rfl
  next => cases read

/-! ## Line ends -/

/-- A text with which a line end could be completed by what comes after it. -/
def Splits (s : List Char) : Prop := s = [] ∨ s = ['\r']

theorem newline?_append {s e rest : List Char} (read : newline? s = some rest) :
    newline? (s ++ e) = some (rest ++ e) := by
  unfold newline? at read
  split at read
  · cases read
    rfl
  · cases read
    rfl
  · cases read

theorem newline?_append_eq_none {s e : List Char} (whole : ¬ Splits s)
    (none : newline? s = none) : newline? (s ++ e) = .none := by
  match s with
  | [] => exact absurd (.inl rfl) whole
  | [c] =>
    by_cases feed : c = '\n'
    · subst feed
      cases none
    · by_cases carriage : c = '\r'
      · subst carriage
        exact absurd (.inr rfl) whole
      · simp [newline?, feed, carriage]
  | c :: d :: s =>
    by_cases feed : c = '\n'
    · subst feed
      cases none
    · by_cases carriage : c = '\r' ∧ d = '\n'
      · obtain ⟨rfl, rfl⟩ := carriage
        cases none
      · simp only [List.cons_append]
        unfold newline?
        split
        next same => exact absurd (List.cons.inj same).1 feed
        next same =>
          obtain ⟨first, same⟩ := List.cons.inj same
          exact absurd ⟨first, (List.cons.inj same).1⟩ carriage
        next => rfl

theorem skipBlankLines_append {s e : List Char} (whole : ¬ Splits (skipBlankLines s)) :
    skipBlankLines (s ++ e) = skipBlankLines s ++ e := by
  fun_induction skipBlankLines s with
  | case1 => exact absurd (.inl rfl) whole
  | case2 c rest blank ih =>
    rw [List.cons_append, skipBlankLines, if_pos blank, ih whole]
  | case3 c rest solid ends ih =>
    have ends' : (c = '\r' && (rest ++ e).head? = some '\n') = true := by
      cases rest <;> simp_all
    rw [List.cons_append, skipBlankLines, if_neg solid, if_pos ends', ih whole]
  | case4 c rest solid goes =>
    have goes' : ¬ (c = '\r' && (rest ++ e).head? = some '\n') = true := by
      cases rest with
      | nil =>
        intro ends
        have carriage : c = '\r' := by simp at ends; exact ends.1
        exact whole (.inr (by rw [carriage]))
      | cons d rest => simpa using goes
    rw [List.cons_append, skipBlankLines, if_neg solid, if_neg goes']

theorem joinedLine?_append {s e rest : List Char} (read : joinedLine? s = some rest)
    (whole : ¬ Splits rest) : joinedLine? (s ++ e) = some (rest ++ e) := by
  obtain ⟨left, ends, rfl⟩ := Option.map_eq_some_iff.mp read
  have something : s.dropWhile isBlank ≠ [] := by
    intro nothing
    rw [skipBlanks, nothing] at ends
    cases ends
  rw [joinedLine?, skipBlanks, dropWhile_append_of_dropWhile_ne_nil something, ← skipBlanks,
    newline?_append ends, Option.map_some, skipBlankLines_append whole]

/-! ## Texts on several lines -/

/-- A round between three double quotes that is neither quotes nor a line end. -/
theorem multiBasicOther_cases {s : List Char} {round : Round (List Char)}
    (goes : multiBasicOther s = some round) :
    (∃ rest left, s = '\\' :: rest ∧ joinedLine? rest = some left ∧ round = .more [] left) ∨
      (∃ rest c left, s = '\\' :: rest ∧ escape? rest = some (c, left) ∧
        round = .more [c] left) ∨
      (∃ c t, s = c :: t ∧ isBasicChar c = true) ∧ round = runOf isBasicChar s := by
  unfold multiBasicOther at goes
  split at goes
  next rest =>
    split at goes
    next left joined =>
      cases goes
      exact .inl ⟨rest, left, rfl, joined, rfl⟩
    next =>
      obtain ⟨⟨c, left⟩, escaped, rfl⟩ := Option.map_eq_some_iff.mp goes
      exact .inr (.inl ⟨rest, c, left, rfl, escaped, rfl⟩)
  next => exact .inr (.inr (run_eq_some_iff.mp goes))

theorem multiBasicOther_char {c : Char} (plain : isBasicChar c = true) (s : List Char) :
    multiBasicOther (c :: s) = some (runOf isBasicChar (c :: s)) := by
  unfold multiBasicOther
  split
  next same => exact absurd (List.cons.inj same).1 (ne_of_isBasicChar plain rfl)
  next => exact run_eq_some_iff.mpr ⟨⟨c, s, rfl, plain⟩, rfl⟩

theorem multiLiteralOther_char {c : Char} (plain : isLiteralChar c = true) (s : List Char) :
    multiLiteralOther (c :: s) = some (runOf isLiteralChar (c :: s)) :=
  run_eq_some_iff.mpr ⟨⟨c, s, rfl, plain⟩, rfl⟩

/-- An escape is not the end of a line. -/
theorem joinedLine?_of_escape? {s left : List Char} {c : Char} (read : escape? s = some (c, left)) :
    joinedLine? s = none := by
  unfold escape? at read
  split at read
  case h_10 => cases read
  all_goals rfl

/-- How the rounds between three quotes treat what is neither a quote nor a line end. -/
structure Treats (quote : Char) (other : List Char → Option (Round (List Char))) : Prop where
  inner : Inner (· = quote)
  starts : ∀ {s round}, other s = some round →
    ∃ c t, s = c :: t ∧ c ≠ quote ∧ c ≠ '\n' ∧ c ≠ '\r'
  append : ∀ {s round e}, other s = some round → ∃ piece rest, round = .more piece rest ∧
    (¬ Splits rest → other (s ++ e) = some (.more piece (rest ++ e)))

theorem treats_basic : Treats '"' multiBasicOther where
  inner := by
    intro c ends
    obtain rfl | rfl | rfl | rfl | rfl | rfl | rfl | rfl := endsValue_cases ends <;> rfl
  starts := by
    intro s round goes
    obtain ⟨rest, left, rfl, _⟩ | ⟨rest, c, left, rfl, _⟩ | ⟨⟨c, t, rfl, plain⟩, _⟩ :=
      multiBasicOther_cases goes
    · exact ⟨'\\', rest, rfl, by decide⟩
    · exact ⟨'\\', rest, rfl, by decide⟩
    · exact ⟨c, t, rfl, ne_of_isBasicChar plain rfl, ne_of_isBasicChar plain rfl,
        ne_of_isBasicChar plain rfl⟩
  append := by
    intro s round e goes
    obtain ⟨rest, left, rfl, joined, rfl⟩ | ⟨rest, c, left, rfl, escaped, rfl⟩ |
      ⟨⟨c, t, rfl, plain⟩, rfl⟩ := multiBasicOther_cases goes
    · refine ⟨[], left, rfl, fun whole => ?_⟩
      simp only [multiBasicOther, List.cons_append]
      rw [joinedLine?_append joined whole]
    · refine ⟨[c], left, rfl, fun _ => ?_⟩
      simp only [multiBasicOther, List.cons_append]
      rw [joinedLine?_of_escape? (escape?_append escaped), escape?_append escaped]
      rfl
    · refine ⟨_, _, rfl, fun whole => ?_⟩
      rw [List.cons_append, multiBasicOther_char plain, ← List.cons_append,
        runOf_append rfl fun nothing => whole (.inl nothing)]

theorem ne_of_isLiteralChar {c d : Char} (plain : isLiteralChar c = true)
    (other : isLiteralChar d = false) : c ≠ d := by
  rintro rfl
  rw [plain] at other
  cases other

theorem treats_literal : Treats '\'' multiLiteralOther where
  inner := by
    intro c ends
    obtain rfl | rfl | rfl | rfl | rfl | rfl | rfl | rfl := endsValue_cases ends <;> rfl
  starts := by
    intro s round goes
    obtain ⟨⟨c, t, rfl, plain⟩, _⟩ := run_eq_some_iff.mp goes
    exact ⟨c, t, rfl, ne_of_isLiteralChar plain rfl, ne_of_isLiteralChar plain rfl,
      ne_of_isLiteralChar plain rfl⟩
  append := by
    intro s round e goes
    obtain ⟨⟨c, t, rfl, plain⟩, rfl⟩ := run_eq_some_iff.mp goes
    refine ⟨_, _, rfl, fun whole => ?_⟩
    rw [List.cons_append, multiLiteralOther_char plain, ← List.cons_append,
      runOf_append rfl fun nothing => whole (.inl nothing)]

section

variable {quote : Char} {other : List Char → Option (Round (List Char))}

/-- The rounds between three quotes. -/
theorem multiStep_cases {s : List Char} {round : Round (List Char)}
    (goes : multiStep quote other s = some round) :
    (3 ≤ countQuotes quote s ∧
      round = .last [List.replicate (min (countQuotes quote s) 5 - 3) quote]
        (s.drop (min (countQuotes quote s) 5))) ∨
      (0 < countQuotes quote s ∧ countQuotes quote s < 3 ∧
        round = .more (List.replicate (countQuotes quote s) quote)
          (s.drop (countQuotes quote s))) ∨
      countQuotes quote s = 0 ∧
        ((∃ rest, newline? s = some rest ∧ round = .more ['\n'] rest) ∨
          newline? s = none ∧ other s = some round) := by
  unfold multiStep at goes
  dsimp only at goes
  split at goes
  next three =>
    cases goes
    exact .inl ⟨three, rfl⟩
  next few =>
    split at goes
    next some =>
      cases goes
      exact .inr (.inl ⟨some, by omega, rfl⟩)
    next none =>
      refine .inr (.inr ⟨by omega, ?_⟩)
      split at goes
      next rest ends =>
        cases goes
        exact .inl ⟨rest, ends, rfl⟩
      next same => exact .inr ⟨same, goes⟩

variable {s e : List Char} (follows : Follows e) (treats : Treats quote other)
include follows treats

theorem countQuotes_append : countQuotes quote (s ++ e) = countQuotes quote s := by
  rw [countQuotes, countQuotes, takeWhile_append_of_follows follows treats.inner]

omit follows treats in
theorem countQuotes_le_length : countQuotes quote s ≤ s.length :=
  (List.takeWhile_sublist _).length_le

omit follows in
/-- Nothing is read of a text in which a line end could be split. -/
theorem not_splits {s : List Char} (next : multiStep quote other s ≠ none) : ¬ Splits s := by
  have nothing (s : List Char) (count : countQuotes quote s = 0) (ends : newline? s = none)
      (closed : ∀ c t, s = c :: t → c = '\r') : multiStep quote other s = none := by
    cases goes : multiStep quote other s with
    | none => rfl
    | some round =>
      obtain ⟨three, _⟩ | ⟨some, _⟩ | ⟨_, ⟨rest, newline, _⟩ | ⟨_, read⟩⟩ := multiStep_cases goes
      · omega
      · omega
      · cases ends.symm.trans newline
      · obtain ⟨c, t, same, _, _, noCarriage⟩ := treats.starts read
        exact absurd (closed c t same) noCarriage
  rintro (rfl | rfl)
  · exact next (nothing [] rfl rfl (by simp))
  · refine next (nothing ['\r'] ?_ rfl (by simp_all))
    have differ : quote ≠ '\r' := by
      rintro rfl
      simpa using treats.inner '\r' rfl
    simp [countQuotes, differ.symm]

theorem multiStep_append_of_last {pieces : List (List Char)} {left : List Char}
    (ends : multiStep quote other s = some (.last pieces left)) :
    multiStep quote other (s ++ e) = some (.last pieces (left ++ e)) := by
  obtain ⟨three, same⟩ | ⟨_, _, same⟩ | ⟨_, ⟨rest, _, same⟩ | ⟨_, read⟩⟩ := multiStep_cases ends
  · cases same
    have enough : min (countQuotes quote s) 5 ≤ s.length :=
      Nat.le_trans (Nat.min_le_left _ _) countQuotes_le_length
    unfold multiStep
    rw [countQuotes_append follows treats]
    dsimp only
    rw [if_pos three, List.drop_append_of_le_length enough]
  · cases same
  · cases same
  · obtain ⟨piece, rest, same, _⟩ := treats.append (e := e) read
    cases same

theorem multiStep_append_of_more {piece rest : List Char}
    (goes : multiStep quote other s = some (.more piece rest))
    (next : multiStep quote other rest ≠ none) :
    multiStep quote other (s ++ e) = some (.more piece (rest ++ e)) := by
  have whole := not_splits treats next
  unfold multiStep
  rw [countQuotes_append follows treats]
  dsimp only
  obtain ⟨_, same⟩ | ⟨any, few, same⟩ | ⟨none, ⟨rest, newline, same⟩ | ⟨noNewline, read⟩⟩ :=
    multiStep_cases goes
  · cases same
  · cases same
    rw [if_neg (by omega), if_pos any, List.drop_append_of_le_length countQuotes_le_length]
  · cases same
    rw [if_neg (by omega), if_neg (by omega), newline?_append newline]
  · have here : ¬ Splits s := by
      obtain ⟨c, t, rfl, _, _, noCarriage⟩ := treats.starts read
      simp [Splits, noCarriage]
    obtain ⟨piece, rest, same, append⟩ := treats.append (e := e) read
    cases same
    rw [if_neg (by omega), if_neg (by omega), newline?_append_eq_none here noNewline]
    exact append whole

theorem multi?_append {t left : List Char} (read : multi? quote other s = some (t, left)) :
    multi? quote other (s ++ e) = some (t, left ++ e) := by
  obtain ⟨⟨pieces, left⟩, rounds, same⟩ := Option.map_eq_some_iff.mp read
  cases same
  have whole : ¬ Splits ((newline? s).getD s) := by
    refine not_splits treats fun failed => ?_
    rw [collect_of_none failed] at rounds
    cases rounds
  have start : (newline? (s ++ e)).getD (s ++ e) = (newline? s).getD s ++ e := by
    cases ends : newline? s with
    | some rest => rw [newline?_append ends]; rfl
    | none =>
      rw [ends] at whole
      rw [newline?_append_eq_none (s := s) whole ends]
      rfl
  rw [multi?, start, collect_append (f := id) ?_ ?_ rounds, List.map_id]
  · rfl
  · intro s pieces ends
    rw [List.map_id]
    exact multiStep_append_of_last follows treats ends
  · intro s piece rest goes next
    exact multiStep_append_of_more follows treats goes next

end

/-! ## Values with nothing inside -/

theorem text?_basic {s : List Char} (single : ∀ left, s ≠ '"' :: '"' :: left) :
    text? ('"' :: s) = basic? s := by
  unfold text?
  split
  next same =>
    cases same
    exact absurd rfl (single _)
  next same =>
    cases same
    rfl
  next same => cases same
  next same => cases same
  next other _ _ => exact absurd rfl (other _)

theorem text?_literal {s : List Char} (single : ∀ left, s ≠ '\'' :: '\'' :: left) :
    text? ('\'' :: s) = literal? s := by
  unfold text?
  split
  next same => cases same
  next same => cases same
  next same =>
    cases same
    exact absurd rfl (single _)
  next same =>
    cases same
    rfl
  next other => exact absurd rfl (other _)

/-- A text with which no word of TOML begins, and no text. -/
structure NoWord (s : List Char) : Prop where
  noTrue : ∀ rest, s ≠ ['t', 'r', 'u', 'e'] ++ rest
  noFalse : ∀ rest, s ≠ ['f', 'a', 'l', 's', 'e'] ++ rest
  noBasic : ∀ rest, s ≠ ['"'] ++ rest
  noLiteral : ∀ rest, s ≠ ['\''] ++ rest

theorem scalar?_number {s : List Char} (noWord : NoWord s) : scalar? s = number? s := by
  unfold scalar?
  split
  · exact absurd rfl (noWord.noTrue _)
  · exact absurd rfl (noWord.noFalse _)
  · exact absurd rfl (noWord.noBasic _)
  · exact absurd rfl (noWord.noLiteral _)
  · rfl

section

variable {s e left : List Char} (follows : Follows e)
include follows

/-- What does not begin in some way does not begin so with more text after it. -/
theorem append_ne (begins : List Char) (inner : begins.any endsValue = false)
    (noBegin : ∀ rest, s ≠ begins ++ rest) (rest : List Char) : s ++ e ≠ begins ++ rest := by
  intro same
  obtain ⟨left, here⟩ := exists_of_append_eq follows begins inner same
  exact noBegin left here

theorem text?_append {t : List Char} (read : text? s = some (t, left)) :
    text? (s ++ e) = some (t, left ++ e) := by
  unfold text? at read
  split at read
  next => exact multi?_append follows treats_basic read
  next rest single =>
    rw [List.cons_append, text?_basic fun left => append_ne follows ['"', '"']
      (by decide) (fun left same => single left (by rw [same]; rfl)) left]
    exact basic?_append read
  next => exact multi?_append follows treats_literal read
  next rest single =>
    rw [List.cons_append, text?_literal fun left => append_ne follows ['\'', '\'']
      (by decide) (fun left same => single left (by rw [same]; rfl)) left]
    exact literal?_append read
  next => cases read

theorem NoWord.append (noWord : NoWord s) : NoWord (s ++ e) where
  noTrue := append_ne follows _ (by decide) noWord.noTrue
  noFalse := append_ne follows _ (by decide) noWord.noFalse
  noBasic := append_ne follows _ (by decide) noWord.noBasic
  noLiteral := append_ne follows _ (by decide) noWord.noLiteral

theorem scalar?_append {v : Scalar} (read : scalar? s = some (v, left)) :
    scalar? (s ++ e) = some (v, left ++ e) := by
  unfold scalar? at read
  split at read
  next =>
    cases read
    rfl
  next =>
    cases read
    rfl
  next rest =>
    obtain ⟨⟨t, left⟩, text, same⟩ := Option.map_eq_some_iff.mp read
    cases same
    have more := text?_append follows text
    rw [List.cons_append] at more ⊢
    simp only [scalar?]
    rw [more]
    rfl
  next rest =>
    obtain ⟨⟨t, left⟩, text, same⟩ := Option.map_eq_some_iff.mp read
    cases same
    have more := text?_append follows text
    rw [List.cons_append] at more ⊢
    simp only [scalar?]
    rw [more]
    rfl
  next noTrue noFalse noBasic noLiteral =>
    have noWord : NoWord s := ⟨noTrue, noFalse, noBasic, noLiteral⟩
    rw [scalar?_number (noWord.append follows), number?_append follows, read]
    rfl

end

end VipHost.Toml
