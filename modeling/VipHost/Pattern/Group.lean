import VipHost.Pattern.Fault
import VipHost.Pattern.Tree
import VipHost.Text.Alphabetic

/-!
# How groups begin

Behind the parenthesis of a group may stand a question mark with a name in angle
brackets or with flags.  Flags without a group hold from there on.

All readers here are given a cursor behind what is read of the group so far.
-/

namespace VipHost.Pattern

/-! ## Names -/

/-- The first character of the name of a group. -/
def isNameStart (c : Char) : Bool := c = '_' || Text.isAlphabetic c

/-- A further character of the name of a group. -/
def isNameChar (c : Char) : Bool :=
  c = '_' || c = '.' || c = '[' || c = ']' || Text.isAlphanumeric c

/-- How many characters of a text may begin the name of a group. -/
def nameLength : List Char → Nat
  | [] => 0
  | c :: s => if isNameStart c then (s.takeWhile isNameChar).length + 1 else 0

/-- The names of groups, each with the stretch it was given in. -/
abbrev Names := List (List Char × Span)

/-- A name and the sign that closes it, if it is not among the names given
before. -/
def groupName (names : Names) (c : Cursor) : Except Fault (c.With Names) :=
  let name := c.rest.takeWhile (· ≠ '>')
  let stop := c.stay.skipMany (nameLength name)
  let span : Span := ⟨c.here, stop.1.here⟩
  if nameLength name < name.length then fail .groupNameInvalid stop.1.nextSpan
  else if stop.1.atEnd then fail .groupNameUnexpectedEnd stop.1.here.span
  else if name.isEmpty then fail .groupNameEmpty span
  else if let some earlier := names.lookup name then fail (.groupNameDuplicate earlier) span
  else .ok ((name, span) :: names, stop.skip)

/-! ## Flags -/

/-- A flag or a minus sign that is not among those before it. -/
def flagItem (items : Flags) (span : Span) (d : Char) : Except Fault FlagItem :=
  if d = '-' then
    match items.find? (·.flag = none) with
    | some earlier => fail (.flagRepeatedNegation earlier.span) span
    | none => .ok ⟨span, none⟩
  else match Flag.ofChar? d with
  | none => fail .flagUnrecognized span
  | some flag =>
    match items.find? (·.flag = some flag) with
    | some earlier => fail (.flagDuplicate earlier.span) span
    | none => .ok ⟨span, some flag⟩

/-- Flags up to a colon or a closing parenthesis, given those in front of the
cursor. -/
def flagItems (items : Flags) (c : Cursor) : Except Fault (c.With Flags) :=
  match _h : c.next? with
  | none => fail .flagUnexpectedEnd c.here.span
  | some d =>
    if d = ':' || d = ')' then
      match items.getLast? with
      | some ⟨span, none⟩ => fail .flagDanglingNegation span
      | _ => .ok (items, c.stay)
    else do
      let item ← flagItem items c.nextSpan d
      return c.stay.skip.found (← flagItems (items ++ [item]) c.skip)
termination_by c.size
decreasing_by exact Cursor.skip_lt _h

/-! ## Beginnings -/

/-- What an opening parenthesis begins. -/
inductive Beginning where
  /-- A group with flags of its own, and the names given up to here. -/
  | group (flags : Flags) (names : Names)
  /-- Nothing: it is a list of flags and is closed already. -/
  | flags (items : Flags)
deriving Repr

/-- What follows a question mark that stands for no repetition. -/
def flagged (opening : Span) (names : Names) (mark : Position) (c : Cursor) :
    Except Fault (c.With Beginning) := do
  if c.atEnd then fail .groupUnclosed opening
  else
    let (items, e) ← flagItems [] c
    if e.1.next? = some ':' then return (.group items names, e.skip)
    else if items.isEmpty then fail .repetitionMissing mark.span
    else return (.flags items, e.skip)

/-- The signs for looking ahead and behind. -/
def lookSigns : List String := ["?=", "?!", "?<=", "?<!"]

/-- What the parenthesis in front of a cursor begins. -/
def beginning (opening : Span) (names : Names) (c : Cursor) : Except Fault (c.With Beginning) :=
  let mark := c.stay.skipSpace
  match lookSigns.findSome? mark.1.after? with
  | some behind => fail .unsupportedLookAround ⟨opening.first, behind.1.here⟩
  | none =>
    match ["?P<", "?<"].findSome? mark.1.after?, mark.1.after? "?" with
    | some inside, _ => do
      let (names, e) ← groupName names inside.1
      return (.group [] names, mark.andThen (inside.andThen e))
    | none, some inside => do
      return mark.found (inside.found (← flagged opening names mark.1.here inside.1))
    | none, none => .ok (.group [] names, mark)

end VipHost.Pattern
