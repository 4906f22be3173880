import VipHost.Pattern.Fault
import VipHost.Pattern.Tree

/-!
# Escapes

A backslash takes the meaning of a sign away or gives one to a letter.  What
follows it is read here: a sign, the code of a character in hexadecimal digits,
a property or a kind of characters, or the border of a word.

Every reader is given the place of the backslash and a cursor behind what is read
of the escape so far.
-/

namespace VipHost.Pattern

/-! ## Characters -/

/-- A sign that stands for itself behind a backslash. -/
def isSign (c : Char) : Bool := c.val < 128 && !c.isAlphanum && c ≠ '<' && c ≠ '>'

/-- A character that has a letter of its own. -/
def lettered? : Char → Option Char
  | 'a' => some '\x07'
  | 'f' => some '\x0c'
  | 't' => some '\t'
  | 'n' => some '\n'
  | 'r' => some '\r'
  | 'v' => some '\x0b'
  | _ => none

/-- What a hexadecimal digit is worth. -/
def hexDigit? (c : Char) : Option Nat :=
  if c.isDigit then some (c.toNat - '0'.toNat)
  else if 'a' ≤ c && c ≤ 'f' then some (c.toNat - 'a'.toNat + 10)
  else if 'A' ≤ c && c ≤ 'F' then some (c.toNat - 'A'.toNat + 10)
  else none

/-- The number that hexadecimal digits stand for. -/
def hexValue (digits : List Char) : Nat :=
  digits.foldl (fun n d => 16 * n + (hexDigit? d).getD 0) 0

/-- The character of a code, if it is the code of a character. -/
def charOfCode? (code : Nat) : Option Char :=
  if h : code.isValidChar then some (Char.ofNatAux code h) else none

/-- How many hexadecimal digits follow a letter. -/
def hexCount? : Char → Option Nat
  | 'x' => some 2
  | 'u' => some 4
  | 'U' => some 8
  | _ => none

/-- A number of hexadecimal digits, each with blanks behind it that do not
count. -/
def hexDigits : Nat → (c : Cursor) → Except Fault (c.With (List Char))
  | 0, c => .ok ([], c.stay)
  | n + 1, c =>
    match c.next? with
    | none => fail .escapeUnexpectedEnd c.here.span
    | some d =>
      if (hexDigit? d).isNone then fail .escapeHexInvalidDigit c.nextSpan
      else do
        let (digits, e) ← hexDigits n c.advance
        return (d :: digits, c.stay.advance.andThen e)

/-- A character written as a fixed number of hexadecimal digits. -/
def hexFixed (start : Position) (count : Nat) (c : Cursor) : Except Fault (c.With Tree) := do
  let (digits, e) ← hexDigits count c
  match charOfCode? (hexValue digits) with
  | some char => return (.literal { span := ⟨start, e.1.here⟩, char, isByte := count = 2 }, e)
  | none => fail .escapeHexInvalid ⟨c.here, e.1.here⟩

/-- A character written as hexadecimal digits in braces; the cursor is at the
opening brace. -/
def hexBraced (start : Position) (c : Cursor) : Except Fault (c.With Tree) :=
  let inside := c.stay.advance
  let (digits, e) := inside.found (inside.1.takeSpaced fun d => (hexDigit? d).isSome)
  let after := e.advance
  match e.1.next? with
  | none => fail .escapeUnexpectedEnd ⟨c.here, e.1.here⟩
  | some '\x7d' =>
    if digits.isEmpty then fail .escapeHexEmpty ⟨c.here, after.1.here⟩
    else match charOfCode? (hexValue (digits.map Prod.fst)) with
    | some char => .ok (.literal { span := ⟨start, after.1.here⟩, char }, after)
    | none => fail .escapeHexInvalid ⟨c.skip.here, e.1.here⟩
  | some _ => fail .escapeHexInvalidDigit e.1.nextSpan

/-! ## Kinds of characters -/

/-- The name of a property: a letter, or a name in braces. -/
def property (start : Position) (c : Cursor) : Except Fault (c.With Tree) :=
  match c.next? with
  | none => fail .escapeUnexpectedEnd c.here.span
  | some '\\' => fail .unicodeClassInvalid c.nextSpan
  | some '\x7b' =>
    let inside := c.stay.advance
    let (_, e) := inside.found (inside.1.takeSpaced (· ≠ '\x7d'))
    if e.1.atEnd then fail .escapeUnexpectedEnd e.1.here.span
    else .ok (.property ⟨start, e.skip.1.here⟩, e.skip)
  | some _ => .ok (.property ⟨start, c.advance.here⟩, c.stay.advance)

/-! ## Borders of words -/

/-- The names of the sides of a border. -/
def borderSides : List String := ["start", "end", "start-half", "end-half"]

/-- The border of a word, with the name of a side in braces or without.  Braces
that do not begin with a name are left for a repetition. -/
def wordBorder (start : Position) (c : Cursor) : Except Fault (c.With Tree) :=
  let border (last : Position) : Tree := .assertion ⟨start, last⟩ .wordBorder
  if c.next? ≠ some '\x7b' then .ok (border c.here, c.stay)
  else
    let inside := c.stay.advance
    let (name, e) := inside.found (inside.1.takeSpaced fun d => d.isAlpha || d = '-')
    if inside.1.atEnd then fail .specialWordOrRepetitionUnexpectedEnd ⟨start, inside.1.here⟩
    else if name.isEmpty then .ok (border c.here, c.stay)
    else if e.1.next? ≠ some '\x7d' then fail .specialWordBoundaryUnclosed ⟨c.here, e.1.here⟩
    else if borderSides.contains (String.ofList (name.map Prod.fst)) then
      .ok (border e.skip.1.here, e.skip)
    else fail .specialWordBoundaryUnrecognized ⟨inside.1.here, e.1.here⟩

/-! ## All together -/

/-- What follows a backslash. -/
def escape (start : Position) (c : Cursor) : Except Fault (c.With Tree) :=
  match c.next? with
  | none => fail .escapeUnexpectedEnd ⟨start, c.here⟩
  | some d =>
    let span : Span := ⟨start, c.skip.here⟩
    let next := c.stay.skip
    let after := c.stay.advance
    let one (t : Tree) : Except Fault (c.With Tree) := .ok (t, next)
    if d.isDigit then fail .unsupportedBackreference span
    else if let some count := hexCount? d then
      if after.1.next? = some '\x7b' then (hexBraced start after.1).map after.found
      else (hexFixed start count after.1).map after.found
    else if d = 'p' || d = 'P' then (property start after.1).map after.found
    else if d = 'd' || d = 's' || d = 'w' then one (.shorthand span false)
    else if d = 'D' || d = 'S' || d = 'W' then one (.shorthand span true)
    else if isSign d then one (.literal { span, char := d })
    else if let some char := lettered? d then one (.literal { span, char })
    else if d = 'A' || d = 'z' then one (.assertion span .border)
    else if d = 'B' || d = '<' || d = '>' then one (.assertion span .wordBorder)
    else if d = 'b' then (wordBorder start next.1).map next.found
    else fail .escapeUnrecognized span

end VipHost.Pattern
