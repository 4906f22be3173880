/-!
# Control sequences

Text for a terminal holds, besides what is shown, *control sequences* that move
the cursor, set colours or name the window.  They begin with the escape
character.

* With `[` begins a sequence of numbers that ends with a letter or a similar
  sign.
* With `]` begins a text for the terminal itself, which ends with the bell.
* With `P` begins such a text with numbers in front, and with `X`, `^` and `_`
  one without; these go on until another escape.
* Anything else is one sign, perhaps with some punctuation in front.

Cancel and substitute end every sequence, and an escape begins a new one.
`shown` is what is left of a text when all sequences are taken out, and all
controls that do not make space.

A control that makes space is shown even in the middle of a sequence, unless the
sequence holds a text.  Everything after it is shown too, up to the next control
that makes no space; with that one the sequence goes on where it was
interrupted.  A character beyond ASCII among what is shown ends the sequence.
-/

namespace VipHost.Text

/-- Where in a control sequence a text stands. -/
inductive Sequence where
  /-- Outside. -/
  | outside
  /-- After the escape. -/
  | escape
  /-- After the escape and some punctuation. -/
  | punctuated
  /-- After the escape and `[`. -/
  | numbers
  /-- In a text that ends with the bell. -/
  | title
  /-- After the escape and `P`. -/
  | device
  /-- In the numbers after the escape and `P`. -/
  | deviceNumbers
  /-- In the punctuation after these numbers. -/
  | devicePunctuated
  /-- In a text that goes on until another escape. -/
  | hidden
deriving DecidableEq, Repr

/-- A control that makes space on a screen or on paper. -/
def makesSpace (c : Char) : Bool := c = '\t' || c = '\n' || c = '\x0c' || c = '\r'

/-- Whether a character is shown outside of sequences. -/
def isShown (c : Char) : Bool := makesSpace c || (0x20 ≤ c.toNat && c.toNat ≠ 0x7f)

/-- Whether the code point of a character lies between two others. -/
def between (first last : Nat) (c : Char) : Bool := first ≤ c.toNat && c.toNat ≤ last

namespace Sequence

/-- A character in the numbers or the punctuation of a device sequence, or right
at its beginning. -/
def inDevice (s : Sequence) (c : Char) : Sequence :=
  if between 0x20 0x2f c then .devicePunctuated
  else if between 0x30 0x3f c then
    if s = .devicePunctuated || (s = .deviceNumbers && between 0x3c 0x3f c) then .hidden
    else .deviceNumbers
  else if between 0x40 0x7e c then .hidden
  else s

/-- Where a text stands after a character that is no part of an interruption,
and whether that character is shown. -/
def step (s : Sequence) (c : Char) : Sequence × Bool :=
  if c = '\x18' || c = '\x1a' then (.outside, false)
  else if c = '\x1b' then (.escape, false)
  else match s with
  | .outside => (.outside, isShown c)
  | .title => (if c = '\x07' then .outside else .title, false)
  | .hidden =>
    (if 0x80 ≤ c.toNat && (String.utf8EncodeChar c).contains 0x9c then .outside else .hidden,
      false)
  | .device | .deviceNumbers | .devicePunctuated => (s.inDevice c, false)
  | .escape =>
    if makesSpace c then (.escape, true)
    else if between 0x20 0x2f c then (.punctuated, false)
    else if c = '[' then (.numbers, false)
    else if c = ']' then (.title, false)
    else if c = 'P' then (.device, false)
    else if c = 'X' || c = '^' || c = '_' then (.hidden, false)
    else (if between 0x30 0x7e c then .outside else .escape, false)
  | .punctuated =>
    if makesSpace c then (.punctuated, true)
    else (if between 0x30 0x7e c then .outside else .punctuated, false)
  | .numbers =>
    if makesSpace c then (.numbers, true)
    else (if between 0x40 0x7e c then .outside else .numbers, false)

end Sequence

/-- What is shown of a text that stands somewhere in a sequence, which is
interrupted when the character before was shown. -/
def shownFrom (s : Sequence) (interrupted : Bool) : List Char → List Char
  | [] => []
  | c :: rest =>
    if interrupted && isShown c then
      c :: shownFrom (if 0x80 ≤ c.toNat then .outside else s) true rest
    else
      let (s, shown) := s.step c
      if shown then c :: shownFrom s true rest else shownFrom s false rest

/-- What is shown of a text. -/
def shown (s : String) : String := String.ofList (shownFrom .outside false s.toList)

/-- A text as messages set it off: in colour, with the colour taken back after
it. -/
def setOff (s : String) : String := "\x1b[33m" ++ s ++ "\x1b[0m"

end VipHost.Text
