import VipHost.Pattern.Nesting
import VipHost.Pattern.Reader

/-!
# What patterns mean

A pattern of the right form may still ask for something that is not to be had.
There are no tables of characters beyond ASCII: kinds of characters of all
scripts are not known, nor are the letters that differ in case alone.  Without
the mode for all scripts a pattern is about bytes, and then it must not match
bytes that are no text.

The modes are changed by flags, up to the end of the group the flags are in.
-/

namespace VipHost.Pattern

/-! ## Modes -/

/-- How a part of a pattern is to be understood. -/
structure Mode where
  /-- Whether letters stand for both cases. -/
  ignoreCase : Bool := false
  /-- Whether the pattern is about characters of all scripts. -/
  unicode : Bool := true
deriving DecidableEq, Repr

/-- The mode after flags. -/
def Mode.set (m : Mode) (flags : Flags) : Mode where
  ignoreCase := (flags.state? .ignoreCase).getD m.ignoreCase
  unicode := (flags.state? .unicode).getD m.unicode

/-! ## Single characters -/

/-- Fail at a stretch if something is the case. -/
def failIf (condition : Bool) (cause : Cause) (span : Span) : Except Fault Unit :=
  if condition then fail cause span else .ok ()

/-- A literal that stands for one byte of several of a character. -/
def Literal.isPartByte (l : Literal) : Bool := l.isByte && l.char.val ≥ 128

/-- Check a character that stands for itself. -/
def Literal.check (m : Mode) (l : Literal) : Except Fault Unit := do
  failIf (!m.unicode && l.isPartByte) .invalidUtf8 l.span
  failIf (m.unicode && m.ignoreCase) .unicodeCaseUnavailable l.span

/-- Check a property of characters. -/
def checkProperty (m : Mode) (span : Span) : Except Fault Unit :=
  fail (if m.unicode then .unicodePropertyNotFound else .unicodeNotAllowed) span

/-- Check letters, digits or blanks. -/
def checkShorthand (m : Mode) (span : Span) (negated : Bool) : Except Fault Unit :=
  if m.unicode then fail .unicodePerlClassNotFound span else failIf negated .invalidUtf8 span

/-! ## Classes -/

/-- What a class contains, told as far as it matters for the case of letters. -/
inductive Content where
  | nothing
  /-- Every character, and so with each letter the one of the other case. -/
  | everything
  /-- Characters that are named, perhaps letters of one case without those of the
  other. -/
  | named
  /-- Every character, but only because all of them are named. -/
  | allNamed
deriving DecidableEq, Repr

namespace Content

/-- Whether a class is known to contain the letters of either case alike. -/
def isEven : Content → Bool
  | .nothing => true
  | .everything => true
  | .named => false
  | .allNamed => false

/-- What two classes contain together, the second joined to the first.  A class
of every character stays as it is known when every character is joined to it. -/
def union : Content → Content → Content
  | .nothing, c => c
  | c, .nothing => c
  | .named, _ => .named
  | _, .named => .named
  | c, _ => c

/-- What both of two classes contain. -/
def intersection : Content → Content → Content
  | .nothing, _ => .nothing
  | _, .nothing => .nothing
  | .everything, c => c
  | .allNamed, c => c
  | .named, _ => .named

/-- What a class does not contain. -/
def complement : Content → Content
  | .nothing => .everything
  | .everything => .nothing
  | .named => .named
  | .allNamed => .nothing

/-- What an operation makes of two classes. -/
def operate : Operation → Content → Content → Content
  | .intersection, c, d => c.intersection d
  | .difference, c, d => c.intersection d.complement
  | .symmetricDifference, c, d =>
    (c.intersection d.complement).union (d.intersection c.complement)

end Content

/-- Fail at a stretch if the other case of a content would have to be known. -/
def checkCase (m : Mode) (content : Content) (span : Span) : Except Fault Unit :=
  failIf (m.unicode && m.ignoreCase && !content.isEven) .unicodeCaseUnavailable span

/-- What a range contains. -/
def rangeContent (first last : Char) : Content :=
  if first.val = 0 && last.val = 0x10ffff then .allNamed else .named

/-- Check a character of a class. -/
def Literal.checkMember (m : Mode) (l : Literal) : Except Fault Unit :=
  failIf (!m.unicode && l.char.val ≥ 128)
    (if l.isByte then .invalidUtf8 else .unicodeNotAllowed) l.span

/-- Check the class of the characters that are not listed. -/
def checkComplement (m : Mode) (negated : Bool) (span : Span) : Except Fault Unit :=
  failIf (!m.unicode && negated) .invalidUtf8 span

/-- Check what is in brackets at a stretch, given what is listed there. -/
def checkBracketed (m : Mode) (span : Span) (negated : Bool) (listed : Content) :
    Except Fault Content := do
  checkCase m listed span
  checkComplement m negated span
  return if negated then listed.complement else listed

mutual

/-- Check members of a class; the result is what they are. -/
def Members.check (m : Mode) : Members → Except Fault Content
  | .empty _ => .ok .nothing
  | .literal l => do
    l.checkMember m
    return .named
  | .range _ first last => do
    first.checkMember m
    last.checkMember m
    return rangeContent first.char last.char
  | .named span negated => do
    checkCase m .named span
    checkComplement m negated span
    return .named
  | .property span => do
    checkProperty m span
    return .named
  | .shorthand span negated => do
    checkShorthand m span negated
    return .named
  | .bracketed span negated members => do
    checkBracketed m span negated (← members.check m)
  | .union _ items => Members.checkAll m items
  | .operation _ kind left right => do
    let l ← left.check m
    let r ← right.check m
    checkCase m r right.span
    checkCase m l left.span
    return .operate kind l r

/-- Check a list of members of a class. -/
def Members.checkAll (m : Mode) : List Members → Except Fault Content
  | [] => .ok .nothing
  | item :: items => do
    let content ← item.check m
    return content.union (← Members.checkAll m items)

end

/-! ## Patterns -/

mutual

/-- Check a pattern in a mode.  The result is whether it looks for borders of
words of all scripts, and the mode after it. -/
def Tree.check (m : Mode) : Tree → Except Fault (Bool × Mode)
  | .empty _ => .ok (false, m)
  | .flags _ items => .ok (false, m.set items)
  | .literal l => do
    l.check m
    return (false, m)
  | .dot span => do
    failIf (!m.unicode) .invalidUtf8 span
    return (false, m)
  | .assertion _ kind => .ok (kind = .wordBorder && m.unicode, m)
  | .property span => do
    checkProperty m span
    return (false, m)
  | .shorthand span negated => do
    checkShorthand m span negated
    return (false, m)
  | .bracketed span negated members => do
    let _ ← checkBracketed m span negated (← members.check m)
    return (false, m)
  | .repetition _ times inner => do
    let (borders, m) ← inner.check m
    return (borders && times ≠ some 0, m)
  | .group _ items inner => do
    let (borders, _) ← inner.check (m.set items)
    return (borders, m)
  | .alternation _ branches => Tree.checkAll m branches
  | .concat _ items => Tree.checkAll m items

/-- Check patterns one after the other. -/
def Tree.checkAll (m : Mode) : List Tree → Except Fault (Bool × Mode)
  | [] => .ok (false, m)
  | item :: items => do
    let (borders, m) ← item.check m
    let (others, m) ← Tree.checkAll m items
    return (borders || others, m)

end

/-- Refuse a text that is no pattern or asks for something that is not to be
had. -/
def check (s : List Char) : Except Refusal Unit := do
  let t ← (Tree.ofText s).mapError .fault
  if let some span := t.tooDeep? nestingLimit then
    throw (.fault ⟨.nestLimitExceeded nestingLimit, span⟩)
  let (borders, _) ← (t.check {}).mapError .fault
  if borders then throw .wordBorder

/-! ## Examples -/

/-- A bracket that comes first in a class does not close it. -/
example : check "(?:a|b)*[^]x-z]".toList = .ok () := by cbv

/-- A group that is not closed is pointed at by its parenthesis. -/
example : check "a(b".toList =
    .error (.fault ⟨.groupUnclosed, ⟨⟨1, 1, 2⟩, ⟨2, 1, 3⟩⟩⟩) := by cbv

/-- Digits of all scripts are not known, whatever comes later. -/
example : check "\\d\\b".toList =
    .error (.fault ⟨.unicodePerlClassNotFound, ⟨⟨0, 1, 1⟩, ⟨2, 1, 3⟩⟩⟩) := by cbv

/-- A class of every character has the letters of either case, and a range of all
characters brings nothing new to it; but the range alone is not looked through. -/
example : check "(?i)[[^&&]\\x00-\\U0010FFFF]".toList = .ok () ∧
    check "(?i)[\\x00-\\U0010FFFF]".toList =
      .error (.fault ⟨.unicodeCaseUnavailable, ⟨⟨4, 1, 5⟩, ⟨21, 1, 22⟩⟩⟩) := by
  constructor <;> cbv

/-- Borders of words of ASCII letters may be looked for, unlike those of all
letters. -/
example : check "(?-u:\\b)".toList = .ok () ∧ check "\\b".toList = .error .wordBorder := by
  constructor <;> cbv

end VipHost.Pattern
