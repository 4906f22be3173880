import VipHost.Pattern.Class
import VipHost.Pattern.Group

/-!
# Reading patterns

A pattern consists of branches, a branch of parts next to each other, and a part
may be a group with branches inside.  `Tree.ofText` reads a pattern or says what
is wrong at which stretch of it.

A pattern stands in a filter, where commas separate directives, so a repetition
is never given as two numbers with a comma between them.
-/

namespace VipHost.Pattern

/-! ## Branches -/

/-- What is read so far of a group, or of the pattern outside of all groups. -/
structure Level where
  /-- Where the first branch begins. -/
  start : Position
  /-- The branches that are read, last first. -/
  branches : List Tree := []
  /-- Where the current branch begins. -/
  branchStart : Position
  /-- The parts of the current branch, last first. -/
  parts : List Tree := []
deriving Repr

namespace Level

/-- Nothing is read at a place. -/
def atPlace (p : Position) : Level := { start := p, branchStart := p }

/-- One more part in the current branch. -/
def push (l : Level) (t : Tree) : Level := { l with parts := t :: l.parts }

/-- The current branch, which ends at a place. -/
def branch (l : Level) (here : Position) : Tree :=
  Tree.ofItems ⟨l.branchStart, here⟩ l.parts.reverse

/-- The branch that ends at the next character is read, and behind it begins
another one. -/
def nextBranch (l : Level) (c : Cursor) : Level :=
  { l with branches := l.branch c.here :: l.branches, branchStart := c.skip.here, parts := [] }

/-- All branches, the last of which ends at a place. -/
def close (l : Level) (here : Position) : Tree :=
  match l.branches with
  | [] => l.branch here
  | branches => .alternation ⟨l.start, here⟩ (branches.reverse ++ [l.branch here])

end Level

/-! ## Repetitions -/

/-- What a sign of repetition at a place repeats, and the parts in front of it. -/
def repeated (l : Level) (here : Position) : Except Fault (Tree × List Tree) :=
  match l.parts with
  | [] => fail .repetitionMissing here.span
  | .flags _ _ :: _ => fail .repetitionMissing here.span
  | last :: parts => .ok (last, parts)

/-- The cursor behind a question mark, if there is one: what a repetition is
about is then to be found as seldom as possible. -/
def skipReluctance (c : Cursor) : c.Onward :=
  if c.next? = some '?' then c.stay.skip else c.stay

/-- How often something may be asked for. -/
def timesLimit : Nat := 4294967295

/-- A number of repetitions in braces; the cursor is at the opening brace. -/
def times (c : Cursor) : Except Fault (c.skip.With Nat) :=
  let first := c.skip.stay.skipSpace.skipWhile Text.isBlank
  let (digits, behind) := first.found (first.1.takeSpaced Char.isDigit)
  let last := behind.skipWhile Text.isBlank
  let number := (digits.map Prod.fst).foldl (fun n d => 10 * n + (d.toNat - '0'.toNat)) 0
  let digitSpan : Span := ⟨first.1.here, behind.1.here⟩
  if last.1.atEnd then fail .repetitionCountUnclosed ⟨c.here, last.1.here⟩
  else if digits.isEmpty then fail .repetitionCountDecimalEmpty digitSpan
  else if timesLimit < number then fail .decimalInvalid digitSpan
  else if last.1.next? ≠ some '\x7d' then fail .repetitionCountUnclosed ⟨c.here, last.1.here⟩
  else .ok (number, last.advance)

/-! ## Parts -/

/-- A part that is one character or one place. -/
def simplePart (c : Cursor) (d : Char) : Except Fault (c.skip.With Tree) :=
  match d with
  | '.' => .ok (.dot c.nextSpan, c.skip.stay)
  | '^' => .ok (.assertion c.nextSpan .border, c.skip.stay)
  | '$' => .ok (.assertion c.nextSpan .border, c.skip.stay)
  | d => single c d

/-- The level with one more part that is no group, or with its last part
repeated. -/
def addPart (l : Level) (c : Cursor) (d : Char) : Except Fault (c.skip.With Level) := do
  if d = '?' || d = '*' || d = '+' then
    let (last, parts) ← repeated l c.here
    let e := skipReluctance c.skip
    let span : Span := ⟨last.span.first, e.1.here⟩
    return ({ l with parts := .repetition span none last :: parts }, e)
  else if d = '\x7b' then
    let (last, parts) ← repeated l c.here
    let (number, e) ← times c
    let f := e.andThen (skipReluctance e.1)
    let span : Span := ⟨last.span.first, f.1.here⟩
    return ({ l with parts := .repetition span (some number) last :: parts }, f)
  else if d = '[' then
    let (t, e) ← bracketed c
    return (l.push t, e)
  else
    let (t, e) ← simplePart c d
    return (l.push t, e)

/-! ## Patterns -/

/-- The rest of a group up to its closing parenthesis, or of a pattern outside of
all groups up to its end.  Given are the stretch of the opening parenthesis, the
names of the groups so far, and what is read already. -/
def levelFrom (opening : Option Span) (names : Names) (l : Level) (c : Cursor) :
    Except Fault (c.With (Tree × Names)) :=
  let here := c.stay.skipSpace
  match _h : here.1.next? with
  | none =>
    match opening with
    | some span => fail .groupUnclosed span
    | none => .ok ((l.close here.1.here, names), here)
  | some ')' =>
    match opening with
    | some _ => .ok ((l.close here.1.here, names), here)
    | none => fail .groupUnopened here.1.nextSpan
  | some '|' => do
    return here.skip.found (← levelFrom opening names (l.nextBranch here.1) here.skip.1)
  | some '(' => do
    let parenthesis := here.1.nextSpan
    let (start, e) ← beginning parenthesis names here.skip.1
    match start with
    | .flags items =>
      let span : Span := ⟨parenthesis.first, e.1.here⟩
      let behind := e.withSpaced ((items.state? .ignoreSpace).getD here.1.spaced)
      let item ← levelFrom opening names (l.push (.flags span items)) behind.1
      return here.skip.found (behind.found item)
    | .group flags names =>
      let inside := e.withSpaced ((flags.state? .ignoreSpace).getD here.1.spaced)
      let ((inner, names), f) ← levelFrom (some parenthesis) names (.atPlace e.1.here) inside.1
      let behind := f.skip.withSpaced here.1.spaced
      let span : Span := ⟨parenthesis.first, behind.1.here⟩
      let item ← levelFrom opening names (l.push (.group span flags inner)) behind.1
      return here.skip.found (inside.found (behind.found item))
  | some d => do
    let (l, e) ← addPart l here.1 d
    return here.skip.found (e.found (← levelFrom opening names l e.1))
termination_by c.size
decreasing_by
  all_goals
    have := Cursor.skipSpace_le c
    have := Cursor.skip_lt _h
    grind [Cursor.stay, Cursor.Onward.skipSpace, Cursor.Onward.skip, Cursor.Onward.withSpaced,
      Cursor.size_withSpaced, Cursor.skip_le]

/-- The pattern of a text. -/
def Tree.ofText (s : List Char) : Except Fault Tree := do
  let c := Cursor.ofText s
  let ((t, _), _) ← levelFrom none [] (.atPlace c.here) c
  return t

end VipHost.Pattern
