import VipHost.Pattern.Tree

/-!
# How deep patterns are nested

Patterns with parts inside of each other are read up to a limit.  Single
characters, places and flags count for nothing.
-/

namespace VipHost.Pattern

/-- How many parts may be inside of each other. -/
def nestingLimit : Nat := 250

/-- The first stretch with something inside of too much else, given how much more
is allowed, and what is inside of it. -/
def tooDeep? (room : Nat) (span : Span) (inner : Nat → Option Span) : Option Span :=
  match room with
  | 0 => some span
  | room + 1 => inner room

mutual

/-- The first members that are too deep inside. -/
def Members.tooDeep? (room : Nat) : Members → Option Span
  | .bracketed span _ members => Pattern.tooDeep? room span fun room => members.tooDeep? room
  | .union span items => Pattern.tooDeep? room span fun room => Members.anyTooDeep? room items
  | .operation span _ left right =>
    Pattern.tooDeep? room span fun room => (left.tooDeep? room).or (right.tooDeep? room)
  | _ => none

/-- The first members of a list that are too deep inside. -/
def Members.anyTooDeep? (room : Nat) : List Members → Option Span
  | [] => none
  | item :: items => (item.tooDeep? room).or (Members.anyTooDeep? room items)

end

mutual

/-- The first part of a pattern that is too deep inside. -/
def Tree.tooDeep? (room : Nat) : Tree → Option Span
  | .bracketed span _ members => Pattern.tooDeep? room span fun room => members.tooDeep? room
  | .repetition span _ inner => Pattern.tooDeep? room span fun room => inner.tooDeep? room
  | .group span _ inner => Pattern.tooDeep? room span fun room => inner.tooDeep? room
  | .alternation span branches =>
    Pattern.tooDeep? room span fun room => Tree.anyTooDeep? room branches
  | .concat span items => Pattern.tooDeep? room span fun room => Tree.anyTooDeep? room items
  | _ => none

/-- The first part of a list of patterns that is too deep inside. -/
def Tree.anyTooDeep? (room : Nat) : List Tree → Option Span
  | [] => none
  | item :: items => (item.tooDeep? room).or (Tree.anyTooDeep? room items)

end

end VipHost.Pattern
