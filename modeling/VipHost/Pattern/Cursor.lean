import VipHost.Text.Blank

/-!
# Places in a pattern

A pattern is read from left to right.  A *cursor* is a place in a pattern
together with the text from there on.  A place is counted in bytes and also in
lines and columns, so that what is wrong can be pointed at.

A pattern may be written with blanks and comments that do not count, from the
sign `#` to the end of the line.  Whether they count is part of the cursor,
since the pattern itself can change it.
-/

namespace VipHost.Pattern

/-- A place between two characters. -/
structure Position where
  /-- How many bytes are in front of it. -/
  bytes : Nat := 0
  /-- Its line, from one. -/
  line : Nat := 1
  /-- Its column, from one. -/
  column : Nat := 1
deriving DecidableEq, Repr, Inhabited

/-- The place after one more character. -/
def Position.after (p : Position) (c : Char) : Position :=
  if c = '\n' then ⟨p.bytes + 1, p.line + 1, 1⟩ else ⟨p.bytes + c.utf8Size, p.line, p.column + 1⟩

/-- A place with all its parts. -/
def Position.details (p : Position) : String :=
  "Position(o: " ++ toString p.bytes ++ ", l: " ++ toString p.line ++ ", c: " ++
    toString p.column ++ ")"

/-- A stretch of a pattern. -/
structure Span where
  /-- Where it begins. -/
  first : Position
  /-- Where it ends. -/
  last : Position
deriving DecidableEq, Repr, Inhabited

/-- The stretch without any character at a place. -/
def Position.span (p : Position) : Span := ⟨p, p⟩

/-- A stretch with all its parts. -/
def Span.details (s : Span) : String :=
  "Span(" ++ s.first.details ++ ", " ++ s.last.details ++ ")"

/-- A place in a pattern. -/
structure Cursor where
  /-- The place. -/
  here : Position := {}
  /-- The text from there on. -/
  rest : List Char
  /-- Whether blanks and comments do not count. -/
  spaced : Bool := false
deriving DecidableEq, Repr, Inhabited

/-- The place after blanks and comments, and the text from there on.  The flag
says whether the text starts inside a comment. -/
def skipSpace : Bool → Position → List Char → Position × List Char
  | _, p, [] => (p, [])
  | false, p, c :: rest =>
    if Text.isBlank c then skipSpace false (p.after c) rest
    else if c = '#' then skipSpace true (p.after c) rest
    else (p, c :: rest)
  | true, p, c :: rest => skipSpace (c ≠ '\n') (p.after c) rest

/-- Blanks and comments are a front part of the text. -/
theorem skipSpace_suffix (inComment : Bool) (p : Position) (s : List Char) :
    (skipSpace inComment p s).2 <:+ s := by
  induction s generalizing inComment p with
  | nil => cases inComment <;> simp [skipSpace]
  | cons c rest ih =>
    cases inComment with
    | true => exact (ih _ _).trans (List.suffix_cons c rest)
    | false =>
      simp only [skipSpace]
      split
      · exact (ih _ _).trans (List.suffix_cons c rest)
      · split
        · exact (ih _ _).trans (List.suffix_cons c rest)
        · exact List.suffix_refl _

namespace Cursor

/-- The next character. -/
def next? (c : Cursor) : Option Char := c.rest.head?

/-- Whether the pattern ends here. -/
def atEnd (c : Cursor) : Bool := c.rest.isEmpty

/-- The cursor after the next character. -/
def skip (c : Cursor) : Cursor :=
  match c.rest with
  | [] => c
  | d :: rest => { c with here := c.here.after d, rest }

/-- The cursor after the blanks and comments here, if they do not count. -/
def skipSpace (c : Cursor) : Cursor :=
  if c.spaced then
    let (here, rest) := Pattern.skipSpace false c.here c.rest
    { c with here, rest }
  else c

/-- The cursor after the next character, and then after blanks and comments that
do not count. -/
def advance (c : Cursor) : Cursor := c.skip.skipSpace

/-- The cursor after a number of characters. -/
def skipMany (c : Cursor) : Nat → Cursor
  | 0 => c
  | n + 1 => c.skip.skipMany n

/-- The same place, with blanks and comments counted or not. -/
def withSpaced (c : Cursor) (spaced : Bool) : Cursor := { c with spaced }

/-- The stretch of the next character. -/
def nextSpan (c : Cursor) : Span := ⟨c.here, c.skip.here⟩

/-- The character after the next one. -/
def second? (c : Cursor) : Option Char := c.rest.tail.head?

/-- The character after the next one and after blanks that do not count; a sign
that begins a comment is passed over with them. -/
def secondBeyondSpace? (c : Cursor) : Option Char :=
  if c.spaced then
    match c.rest.tail.dropWhile Text.isBlank with
    | '#' :: rest => (rest.dropWhile Text.isBlank).head?
    | rest => rest.head?
  else c.second?

/-- There is nothing in front of the first place of a pattern. -/
def ofText (s : List Char) : Cursor := { rest := s }

/-! ## How much is left

Whoever reads a pattern only goes forward: the text that is left gets shorter
with every character and never longer. -/

/-- How many characters are left. -/
def size (c : Cursor) : Nat := c.rest.length

theorem skip_le (c : Cursor) : c.skip.size ≤ c.size := by
  unfold skip size
  split <;> simp [*]

theorem skip_lt {c : Cursor} {d : Char} (h : c.next? = some d) : c.skip.size < c.size := by
  obtain ⟨here, rest, spaced⟩ := c
  cases rest with
  | nil => simp [next?] at h
  | cons e rest => simp [skip, size]

theorem skipSpace_le (c : Cursor) : c.skipSpace.size ≤ c.size := by
  unfold skipSpace size
  split
  · exact (skipSpace_suffix false c.here c.rest).length_le
  · exact Nat.le_refl _

theorem advance_lt {c : Cursor} {d : Char} (h : c.next? = some d) : c.advance.size < c.size :=
  Nat.lt_of_le_of_lt (skipSpace_le _) (skip_lt h)

theorem skipMany_le (c : Cursor) (n : Nat) : (c.skipMany n).size ≤ c.size := by
  induction n generalizing c with
  | zero => exact Nat.le_refl _
  | succ n ih => exact Nat.le_trans (ih c.skip) (skip_le c)

theorem size_withSpaced (c : Cursor) (spaced : Bool) : (c.withSpaced spaced).size = c.size := rfl

/-- A cursor with no more left than another one. -/
abbrev Onward (c : Cursor) := { d : Cursor // d.size ≤ c.size }

/-- The same place. -/
def stay (c : Cursor) : c.Onward := ⟨c, Nat.le_refl _⟩

/-- Something that is read from a place, and a cursor with no more left. -/
abbrev With (c : Cursor) (α : Type) := α × c.Onward

namespace Onward

/-- The cursor after the next character. -/
def skip {c : Cursor} (d : c.Onward) : c.Onward := ⟨d.1.skip, Nat.le_trans d.1.skip_le d.2⟩

/-- The cursor after the blanks and comments here, if they do not count. -/
def skipSpace {c : Cursor} (d : c.Onward) : c.Onward :=
  ⟨d.1.skipSpace, Nat.le_trans d.1.skipSpace_le d.2⟩

/-- The cursor after the next character, and then after blanks and comments that
do not count. -/
def advance {c : Cursor} (d : c.Onward) : c.Onward := d.skip.skipSpace

/-- The cursor after a number of characters. -/
def skipMany {c : Cursor} (d : c.Onward) (n : Nat) : c.Onward :=
  ⟨d.1.skipMany n, Nat.le_trans (d.1.skipMany_le n) d.2⟩

/-- The cursor after all characters of a kind. -/
def skipWhile {c : Cursor} (d : c.Onward) (p : Char → Bool) : c.Onward :=
  d.skipMany (d.1.rest.takeWhile p).length

/-- The same place, with blanks and comments counted or not. -/
def withSpaced {c : Cursor} (d : c.Onward) (spaced : Bool) : c.Onward :=
  ⟨d.1.withSpaced spaced, d.2⟩

/-- A cursor onward of one that is itself onward. -/
def andThen {c : Cursor} (d : c.Onward) (e : d.1.Onward) : c.Onward :=
  ⟨e.1, Nat.le_trans e.2 d.2⟩

/-- What is read from an onward cursor. -/
def found {α : Type} {c : Cursor} (d : c.Onward) (item : d.1.With α) : c.With α :=
  (item.1, d.andThen item.2)

end Onward

/-- The cursor after a text, if that text stands here. -/
def after? (c : Cursor) (s : String) : Option c.Onward :=
  if s.toList.isPrefixOf c.rest then some (c.stay.skipMany s.length) else none

/-- The characters of a kind from here on, each with its stretch, and the cursor
after them.  Blanks and comments that do not count may stand between them. -/
def takeSpaced (p : Char → Bool) (c : Cursor) : c.With (List (Char × Span)) :=
  match _h : c.next? with
  | some d =>
    if p d then
      let (others, e) := c.advance.takeSpaced p
      ((d, c.nextSpan) :: others, c.stay.advance.andThen e)
    else ([], c.stay)
  | none => ([], c.stay)
termination_by c.size
decreasing_by exact advance_lt _h

end Cursor

end VipHost.Pattern
