import VipHost.Pattern.Escape

/-!
# Classes of characters in brackets

A class lists characters, ranges of characters, kinds of characters and classes
in brackets of their own.  Between such lists stand the operations on classes,
which are done from left to right.

A closing bracket that comes first in a class is a member of it, and so is a
hyphen that comes first or last.
-/

namespace VipHost.Pattern

/-- The next character as it stands. -/
def asItStands (c : Cursor) (char : Char) : Literal := { span := c.nextSpan, char }

/-! ## Members -/

/-- The names of classes of ASCII characters. -/
def asciiClasses : List String :=
  ["alnum", "alpha", "ascii", "blank", "cntrl", "digit", "graph", "lower", "print", "punct",
    "space", "upper", "word", "xdigit"]

/-- A class of ASCII characters such as `[:alpha:]` or `[:^alpha:]`; the cursor is
behind its first bracket. -/
def named? (start : Position) (c : Cursor) : Option (c.With Members) := do
  let opened ← c.after? ":"
  let (negated, inside) := match opened.1.after? "^" with
    | some inside => (true, opened.andThen inside)
    | none => (false, opened)
  let name := inside.1.rest.takeWhile (· ≠ ':')
  let after := inside.skipMany name.length
  let behind ← after.1.after? ":]"
  if asciiClasses.contains (String.ofList name) then
    some (.named ⟨start, behind.1.here⟩ negated, after.andThen behind)
  else none

/-- One character or a kind of characters: an escape, or a character as it stands. -/
def single (c : Cursor) (d : Char) : Except Fault (c.skip.With Tree) :=
  if d = '\\' then escape c.here c.skip else .ok (.literal (asItStands c d), c.skip.stay)

/-- The end of a range, which has to be a character. -/
def rangeEnd (t : Tree) : Except Fault Literal :=
  match t with
  | .literal l => .ok l
  | _ => fail .classRangeLiteral t.span

/-- A range from one character to another. -/
def range (first last : Tree) : Except Fault Members := do
  let span := ⟨first.span.first, last.span.last⟩
  let l ← rangeEnd first
  let m ← rangeEnd last
  if l.char ≤ m.char then return .range span l m else fail .classRangeInvalid span

/-- A member or a range of members of the class that is opened at a stretch. -/
def memberOrRange (opening : Span) (c : Cursor) (d : Char) :
    Except Fault (c.skip.With Members) := do
  let (first, e) ← single c d
  let e := e.skipSpace
  let second? := e.1.secondBeyondSpace?
  if e.1.atEnd then fail .classUnclosed opening
  else if e.1.next? ≠ some '-' || second? = some ']' || second? = some '-' then
    match first.members? with
    | some members => return (members, e)
    | none => fail .classEscapeInvalid first.span
  else
    let e := e.advance
    match e.1.next? with
    | none => fail .classUnclosed opening
    | some d =>
      let (last, f) ← single e.1 d
      return (← range first last, e.skip.andThen f)

/-! ## Operations -/

/-- The sign of an operation. -/
def Operation.sign : Operation → String
  | .intersection => "&&"
  | .difference => "--"
  | .symmetricDifference => "~~"

/-- The operation whose sign consists of a character and the one after it. -/
def operation? (d : Char) (second? : Option Char) : Option Operation :=
  if second? ≠ some d then none
  else match d with
  | '&' => some .intersection
  | '-' => some .difference
  | '~' => some .symmetricDifference
  | _ => none

/-! ## Classes that are being read -/

/-- What is read so far of a class. -/
structure OpenClass where
  /-- Where it is opened. -/
  span : Span
  /-- Whether it consists of the characters that are not listed. -/
  negated : Bool
  /-- The operation in front of the current list, with its left side. -/
  left : Option (Operation × Members) := none
  /-- Where the current list is written. -/
  listSpan : Span
  /-- The current list, last member first. -/
  list : List Members := []
deriving Repr

namespace OpenClass

/-- The class with one more member. -/
def push (o : OpenClass) (m : Members) : OpenClass :=
  { o with
    listSpan := ⟨if o.list.isEmpty then m.span.first else o.listSpan.first, m.span.last⟩
    list := m :: o.list }

/-- What is listed so far. -/
def members (o : OpenClass) : Members :=
  let right := Members.ofItems o.listSpan o.list.reverse
  match o.left with
  | none => right
  | some (kind, left) => .operation ⟨left.span.first, right.span.last⟩ kind left right

/-- The class after the sign of an operation, which ends at a place. -/
def operate (o : OpenClass) (kind : Operation) (here : Position) : OpenClass :=
  { o with left := some (kind, o.members), listSpan := here.span, list := [] }

/-- The beginning of a class: the brackets, a circumflex that takes the other
characters, hyphens, and a closing bracket if it comes first. -/
def ofBracket (c : Cursor) : Except Fault (c.skip.With OpenClass) :=
  let inside := c.skip.stay.skipSpace
  let negated : Bool := inside.1.next? = some '^'
  let first := if negated then inside.advance else inside
  let (hyphens, behind) := first.found (first.1.takeSpaced (· = '-'))
  let start (last : Position) : OpenClass :=
    hyphens.foldl (fun o (char, span) => o.push (.literal { span, char }))
      { span := ⟨c.here, last⟩, negated, listSpan := first.1.here.span }
  if first.1.atEnd then fail .classUnclosed ⟨c.here, first.1.here⟩
  else if behind.1.atEnd then fail .classUnclosed c.here.span
  else if hyphens.isEmpty && behind.1.next? = some ']' then
    let after := behind.advance
    if after.1.atEnd then fail .classUnclosed ⟨c.here, after.1.here⟩
    else .ok ((start after.1.here).push (.literal (asItStands behind.1 ']')), after)
  else .ok (start behind.1.here, behind)

end OpenClass

/-- What is read of a class up to its end. -/
def closeClass (o : OpenClass) (c : Cursor) : Except Fault (c.With (Span × Bool × Members)) :=
  let here := c.stay.skipSpace
  match _h : here.1.next? with
  | none => fail .classUnclosed o.span
  | some ']' => .ok ((⟨o.span.first, here.skip.1.here⟩, o.negated, o.members), here.skip)
  | some '[' =>
    match named? here.1.here here.skip.1 with
    | some (members, e) => do
      return here.skip.found (e.found (← closeClass (o.push members) e.1))
    | none => do
      let (inner, e) ← OpenClass.ofBracket here.1
      let ((span, negated, members), f) ← closeClass inner e.1
      let item ← closeClass (o.push (.bracketed span negated members)) f.1
      return here.skip.found (e.found (f.found item))
  | some d =>
    match operation? d here.1.second? with
    | some kind => do
      let behind := here.skip.skip
      return behind.found (← closeClass (o.operate kind behind.1.here) behind.1)
    | none => do
      let (members, e) ← memberOrRange o.span here.1 d
      return here.skip.found (e.found (← closeClass (o.push members) e.1))
termination_by c.size
decreasing_by
  all_goals
    have := Cursor.skipSpace_le c
    have := Cursor.skip_lt _h
    have := Cursor.skip_le c.skipSpace.skip
    grind [Cursor.stay, Cursor.Onward.skipSpace, Cursor.Onward.skip]

/-- The class whose first bracket is at a cursor. -/
def bracketed (c : Cursor) : Except Fault (c.skip.With Tree) := do
  let (opened, e) ← OpenClass.ofBracket c
  let ((span, negated, members), f) ← closeClass opened e.1
  return (.bracketed span negated members, e.andThen f)

end VipHost.Pattern
