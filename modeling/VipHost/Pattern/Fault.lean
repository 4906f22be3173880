import VipHost.Pattern.Cursor
import VipHost.Text.Quoted

/-!
# What is wrong with a pattern

A pattern is refused for one of three reasons: it has no right form, or it asks
for something that is not to be had, or it looks for the borders of words of all
scripts.  In the first two cases the fault is at a stretch of the pattern.
-/

namespace VipHost.Pattern

/-- What is wrong at a stretch of a pattern. -/
inductive Cause where
  /-- An escape that is no member of a class. -/
  | classEscapeInvalid
  /-- A range that ends before it begins. -/
  | classRangeInvalid
  /-- A range from or to something else than a character. -/
  | classRangeLiteral
  | classUnclosed
  /-- A number of repetitions that is too large. -/
  | decimalInvalid
  | escapeHexEmpty
  | escapeHexInvalid
  | escapeHexInvalidDigit
  | escapeUnexpectedEnd
  | escapeUnrecognized
  | flagDanglingNegation
  | flagDuplicate (earlier : Span)
  | flagRepeatedNegation (earlier : Span)
  | flagUnexpectedEnd
  | flagUnrecognized
  | groupNameDuplicate (earlier : Span)
  | groupNameEmpty
  | groupNameInvalid
  | groupNameUnexpectedEnd
  | groupUnclosed
  | groupUnopened
  /-- Parts inside of each other, deeper than allowed. -/
  | nestLimitExceeded (limit : Nat)
  | repetitionCountDecimalEmpty
  | repetitionCountUnclosed
  | repetitionMissing
  | specialWordBoundaryUnclosed
  | specialWordBoundaryUnrecognized
  | specialWordOrRepetitionUnexpectedEnd
  | unicodeClassInvalid
  /-- A backslash and a digit. -/
  | unsupportedBackreference
  | unsupportedLookAround
  /-- A character beyond ASCII where only bytes are allowed. -/
  | unicodeNotAllowed
  /-- Bytes that are no text. -/
  | invalidUtf8
  /-- A property of characters that is not known. -/
  | unicodePropertyNotFound
  /-- A class of letters, digits or blanks of all scripts. -/
  | unicodePerlClassNotFound
  /-- Letters of all scripts without regard to their case. -/
  | unicodeCaseUnavailable
deriving DecidableEq, Repr

namespace Cause

/-- A cause with all its parts. -/
def details : Cause → String
  | .classEscapeInvalid => "ClassEscapeInvalid"
  | .classRangeInvalid => "ClassRangeInvalid"
  | .classRangeLiteral => "ClassRangeLiteral"
  | .classUnclosed => "ClassUnclosed"
  | .decimalInvalid => "DecimalInvalid"
  | .escapeHexEmpty => "EscapeHexEmpty"
  | .escapeHexInvalid => "EscapeHexInvalid"
  | .escapeHexInvalidDigit => "EscapeHexInvalidDigit"
  | .escapeUnexpectedEnd => "EscapeUnexpectedEof"
  | .escapeUnrecognized => "EscapeUnrecognized"
  | .flagDanglingNegation => "FlagDanglingNegation"
  | .flagDuplicate earlier => withEarlier "FlagDuplicate" earlier
  | .flagRepeatedNegation earlier => withEarlier "FlagRepeatedNegation" earlier
  | .flagUnexpectedEnd => "FlagUnexpectedEof"
  | .flagUnrecognized => "FlagUnrecognized"
  | .groupNameDuplicate earlier => withEarlier "GroupNameDuplicate" earlier
  | .groupNameEmpty => "GroupNameEmpty"
  | .groupNameInvalid => "GroupNameInvalid"
  | .groupNameUnexpectedEnd => "GroupNameUnexpectedEof"
  | .groupUnclosed => "GroupUnclosed"
  | .groupUnopened => "GroupUnopened"
  | .nestLimitExceeded limit => "NestLimitExceeded(" ++ toString limit ++ ")"
  | .repetitionCountDecimalEmpty => "RepetitionCountDecimalEmpty"
  | .repetitionCountUnclosed => "RepetitionCountUnclosed"
  | .repetitionMissing => "RepetitionMissing"
  | .specialWordBoundaryUnclosed => "SpecialWordBoundaryUnclosed"
  | .specialWordBoundaryUnrecognized => "SpecialWordBoundaryUnrecognized"
  | .specialWordOrRepetitionUnexpectedEnd => "SpecialWordOrRepetitionUnexpectedEof"
  | .unicodeClassInvalid => "UnicodeClassInvalid"
  | .unsupportedBackreference => "UnsupportedBackreference"
  | .unsupportedLookAround => "UnsupportedLookAround"
  | .unicodeNotAllowed => "UnicodeNotAllowed"
  | .invalidUtf8 => "InvalidUtf8"
  | .unicodePropertyNotFound => "UnicodePropertyNotFound"
  | .unicodePerlClassNotFound => "UnicodePerlClassNotFound"
  | .unicodeCaseUnavailable => "UnicodeCaseUnavailable"
where
  /-- A cause that refers to an earlier stretch. -/
  withEarlier (name : String) (earlier : Span) : String :=
    name ++ " \x7b original: " ++ earlier.details ++ " \x7d"

/-- Whether the form of the pattern is right and only its meaning is not to be
had. -/
def isMeaning : Cause → Bool
  | .unicodeNotAllowed => true
  | .invalidUtf8 => true
  | .unicodePropertyNotFound => true
  | .unicodePerlClassNotFound => true
  | .unicodeCaseUnavailable => true
  | _ => false

end Cause

/-- Something wrong at a stretch of a pattern. -/
structure Fault where
  /-- What is wrong. -/
  cause : Cause
  /-- Where. -/
  span : Span
deriving DecidableEq, Repr

/-- A fault with all its parts, the pattern included. -/
def Fault.details (f : Fault) (pattern : String) : String :=
  (if f.cause.isMeaning then "Translate" else "Parse") ++ "(Error \x7b kind: " ++
    f.cause.details ++ ", pattern: " ++ Text.quoted pattern ++ ", span: " ++ f.span.details ++
    " \x7d)"

/-- Why a pattern is refused. -/
inductive Refusal where
  /-- Something is wrong at a stretch of it. -/
  | fault (f : Fault)
  /-- It looks for borders of words of all scripts. -/
  | wordBorder
deriving DecidableEq, Repr

/-- A refusal with all its parts, the pattern included. -/
def Refusal.details (r : Refusal) (pattern : String) : String :=
  let reason := match r with
    | .fault f => "NFA(BuildError \x7b kind: Syntax(" ++ f.details pattern ++ ") \x7d)"
    | .wordBorder =>
      "Unsupported(\"cannot build DFAs for regexes with Unicode word boundaries; switch to " ++
        "ASCII word boundaries, or heuristically enable Unicode word boundaries or use a " ++
        "different regex engine\")"
  "BuildError \x7b kind: " ++ reason ++ " \x7d"

/-- Fail with a cause at a stretch. -/
def fail {α : Type} (cause : Cause) (span : Span) : Except Fault α := .error ⟨cause, span⟩

end VipHost.Pattern
