import VipHost.Pattern.Cursor

/-!
# Patterns as trees

What a pattern consists of, each part with the stretch it is written in.  Parts
that a pattern matches in the same way are not told apart, unless something may
be wrong with one of them and not with the other.
-/

namespace VipHost.Pattern

/-- A character that stands for itself, however it is written. -/
structure Literal where
  /-- Where it is written. -/
  span : Span
  /-- The character. -/
  char : Char
  /-- Whether it is written as the two hexadecimal digits of a byte. -/
  isByte : Bool := false
deriving DecidableEq, Repr

/-! ## Classes -/

/-- What can be made of two classes. -/
inductive Operation where
  | intersection
  | difference
  | symmetricDifference
deriving DecidableEq, Repr

/-- The members of a class of characters. -/
inductive Members where
  /-- None. -/
  | empty (span : Span)
  | literal (l : Literal)
  /-- All characters from one to another. -/
  | range (span : Span) (first last : Literal)
  /-- A class of ASCII with a name, such as `[:alpha:]`. -/
  | named (span : Span) (negated : Bool)
  /-- The characters with a property, such as `\pL`. -/
  | property (span : Span)
  /-- Letters, digits or blanks, such as `\d`. -/
  | shorthand (span : Span) (negated : Bool)
  /-- A class in brackets. -/
  | bracketed (span : Span) (negated : Bool) (members : Members)
  /-- The members of several kinds together. -/
  | union (span : Span) (items : List Members)
  | operation (span : Span) (kind : Operation) (left right : Members)
deriving Repr

/-- Where members are written. -/
def Members.span : Members → Span
  | .empty span => span
  | .literal l => l.span
  | .range span _ _ => span
  | .named span _ => span
  | .property span => span
  | .shorthand span _ => span
  | .bracketed span _ _ => span
  | .union span _ => span
  | .operation span _ _ _ => span

/-! ## Flags -/

/-- What a flag changes. -/
inductive Flag where
  | ignoreCase
  | multiLine
  | dotIsEverything
  | swapGreed
  | unicode
  | lineEnds
  | ignoreSpace
deriving DecidableEq, Repr

/-- The flag of a letter. -/
def Flag.ofChar? : Char → Option Flag
  | 'i' => some .ignoreCase
  | 'm' => some .multiLine
  | 's' => some .dotIsEverything
  | 'U' => some .swapGreed
  | 'u' => some .unicode
  | 'R' => some .lineEnds
  | 'x' => some .ignoreSpace
  | _ => none

/-- A flag, or the minus sign in front of flags that are taken back. -/
structure FlagItem where
  /-- Where it is written. -/
  span : Span
  /-- The flag; nothing for the minus sign. -/
  flag : Option Flag
deriving DecidableEq, Repr

/-- Flags in the order they are written. -/
abbrev Flags := List FlagItem

/-- Whether a flag is set or taken back, if it is mentioned. -/
def Flags.state? (flags : Flags) (flag : Flag) : Option Bool :=
  if flags.any (·.flag = some flag) then
    some (!(flags.takeWhile (·.flag ≠ some flag)).any (·.flag = none))
  else none

/-! ## Patterns -/

/-- What a place in the text has to be like. -/
inductive Assertion where
  /-- The beginning or the end of a line or of the text. -/
  | border
  /-- The border of a word, or no such border. -/
  | wordBorder
deriving DecidableEq, Repr

/-- A pattern. -/
inductive Tree where
  | empty (span : Span)
  /-- Flags for what follows in the same group. -/
  | flags (span : Span) (items : Flags)
  | literal (l : Literal)
  /-- Any character. -/
  | dot (span : Span)
  | assertion (span : Span) (kind : Assertion)
  /-- A character with a property. -/
  | property (span : Span)
  /-- A letter, digit or blank. -/
  | shorthand (span : Span) (negated : Bool)
  /-- A character of a class. -/
  | bracketed (span : Span) (negated : Bool) (members : Members)
  /-- A pattern again and again; how often, if exactly that is asked for. -/
  | repetition (span : Span) (times : Option Nat) (inner : Tree)
  /-- A group, with flags for what is in it. -/
  | group (span : Span) (flags : Flags) (inner : Tree)
  | alternation (span : Span) (branches : List Tree)
  | concat (span : Span) (items : List Tree)
deriving Repr, Inhabited

/-- Where a pattern is written. -/
def Tree.span : Tree → Span
  | .empty span => span
  | .flags span _ => span
  | .literal l => l.span
  | .dot span => span
  | .assertion span _ => span
  | .property span => span
  | .shorthand span _ => span
  | .bracketed span _ _ => span
  | .repetition span _ _ => span
  | .group span _ _ => span
  | .alternation span _ => span
  | .concat span _ => span

/-- The members of a class that a pattern for one character stands for, if it may
stand in a class. -/
def Tree.members? : Tree → Option Members
  | .literal l => some (.literal l)
  | .property span => some (.property span)
  | .shorthand span negated => some (.shorthand span negated)
  | _ => none

/-- Patterns next to each other at a stretch, as one pattern. -/
def Tree.ofItems (span : Span) : List Tree → Tree
  | [] => .empty span
  | [item] => item
  | items => .concat span items

/-- Kinds of members next to each other at a stretch, as one. -/
def Members.ofItems (span : Span) : List Members → Members
  | [] => .empty span
  | [item] => item
  | items => .union span items

end VipHost.Pattern
