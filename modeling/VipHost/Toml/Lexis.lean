import VipHost.Toml.Node

/-!
# The characters of TOML

A reader takes a piece off the front of a text and returns it with what is left,
or refuses the text.  `collect` is the one loop of all readers: it repeats a
step until the step says that it was the last.  A step that goes on has to take
something off, so the loop ends.
-/

namespace VipHost.Toml

/-- A reader of pieces of a text. -/
abbrev Reader (α : Type) := List Char → Option (α × List Char)

/-! ## The loop -/

/-- What one round of a loop gives. -/
inductive Round (α : Type) where
  /-- The last pieces. -/
  | last (pieces : List α) (rest : List Char)
  /-- One more piece, and the loop goes on. -/
  | more (piece : α) (rest : List Char)

/-- Repeat a step until it was the last, and collect the pieces. -/
def collect {α : Type} (step : List Char → Option (Round α)) (s : List Char) :
    Option (List α × List Char) :=
  match step s with
  | none => none
  | some (.last pieces rest) => some (pieces, rest)
  | some (.more piece rest) =>
    if rest.length < s.length then
      (collect step rest).map fun (pieces, rest) => (piece :: pieces, rest)
    else none
termination_by s.length

theorem collect_of_last {α : Type} {step : List Char → Option (Round α)} {s rest : List Char}
    {pieces : List α} (h : step s = some (.last pieces rest)) :
    collect step s = some (pieces, rest) := by
  rw [collect, h]

theorem collect_of_more {α : Type} {step : List Char → Option (Round α)} {s rest : List Char}
    {piece : α} (h : step s = some (.more piece rest)) (shorter : rest.length < s.length) :
    collect step s = (collect step rest).map fun (pieces, rest) => (piece :: pieces, rest) := by
  rw [collect, h]
  simp [shorter]

theorem collect_of_none {α : Type} {step : List Char → Option (Round α)} {s : List Char}
    (h : step s = none) : collect step s = none := by
  rw [collect, h]

/-! ## Blanks, lines and comments -/

/-- A space or a tab. -/
def isBlank (c : Char) : Bool := c = ' ' || c = '\t'

/-- A character that may stand in a comment or between quotes: no control but
the tab. -/
def isPlain (c : Char) : Bool := c = '\t' || (0x20 ≤ c.toNat && c.toNat ≠ 0x7f)

/-- The text without the blanks in front. -/
def skipBlanks (s : List Char) : List Char := s.dropWhile isBlank

/-- What is left after an end of line. -/
def newline? : List Char → Option (List Char)
  | '\n' :: rest => some rest
  | '\r' :: '\n' :: rest => some rest
  | _ => none

/-- The text without blanks and line ends in front. -/
def skipBlankLines : List Char → List Char
  | [] => []
  | c :: rest =>
    if isBlank c || c = '\n' then skipBlankLines rest
    else if c = '\r' && rest.head? = some '\n' then skipBlankLines rest
    else c :: rest

/-- The text without the comment in front, if there is one. -/
def skipComment : List Char → List Char
  | '#' :: rest => rest.dropWhile isPlain
  | s => s

/-- What is left after the rest of a line: blanks, perhaps a comment, and the
end of the line or of the text. -/
def lineEnd? (s : List Char) : Option (List Char) :=
  match skipComment (skipBlanks s) with
  | [] => some []
  | rest => newline? rest

/-- The text without blanks, line ends and comments in front.  The flag says
whether the text starts inside a comment. -/
def skipGap : Bool → List Char → List Char
  | _, [] => []
  | true, c :: rest =>
    if isPlain c then skipGap true rest
    else if c = '\n' then skipGap false rest
    else if c = '\r' && rest.head? = some '\n' then skipGap false rest
    else c :: rest
  | false, c :: rest =>
    if c = '#' then skipGap true rest
    else if isBlank c || c = '\n' then skipGap false rest
    else if c = '\r' && rest.head? = some '\n' then skipGap false rest
    else c :: rest

/-! ## Digits -/

/-- More digits, with single underscores between digits. -/
def moreDigits (isDigit : Char → Bool) : Reader (List Char)
  | [] => some ([], [])
  | [c] => if isDigit c then some ([c], []) else if c = '_' then none else some ([], [c])
  | c :: d :: rest =>
    if isDigit c then
      (moreDigits isDigit (d :: rest)).map fun (digits, rest) => (c :: digits, rest)
    else if c = '_' then
      if isDigit d then
        (moreDigits isDigit rest).map fun (digits, rest) => (d :: digits, rest)
      else none
    else some ([], c :: d :: rest)

/-- At least one digit, with single underscores between digits. -/
def digits? (isDigit : Char → Bool) (s : List Char) : Option (List Char × List Char) :=
  match s with
  | c :: _ => if isDigit c then moreDigits isDigit s else none
  | [] => none

/-- The value of a digit in any base up to sixteen. -/
def digitValue (c : Char) : Nat :=
  if c.isDigit then c.toNat - '0'.toNat
  else if 'a' ≤ c then c.toNat - 'a'.toNat + 10
  else c.toNat - 'A'.toNat + 10

/-- The number that digits stand for in a base. -/
def numberOfDigits (base : Nat) (digits : List Char) : Nat :=
  digits.foldl (fun n c => n * base + digitValue c) 0

/-- A hexadecimal digit. -/
def isHexDigit (c : Char) : Bool :=
  c.isDigit || ('a' ≤ c && c ≤ 'f') || ('A' ≤ c && c ≤ 'F')

/-- An octal digit. -/
def isOctalDigit (c : Char) : Bool := '0' ≤ c && c ≤ '7'

/-- A binary digit. -/
def isBinaryDigit (c : Char) : Bool := c = '0' || c = '1'

end VipHost.Toml
