import VipHost.Log.Event
import VipHost.Pattern.Meaning
import VipHost.Text.Alphabetic
import VipHost.Text.Blank

/-!
# Log filters

A filter is written as directives with commas between them.  A directive is a
level, which holds for every part of the host; or the beginning of an address
and a level for the parts whose address begins so; or such a beginning alone,
for every event of those parts.

A directive may go on in brackets.  A field in braces there, as in `[{size}]`,
restricts it to the events with a field of that name, and every event has a
message.  A name in front of the braces restricts it to spans of work, and so
does a value after the name of a field.  The host has no spans, so such a
directive is read and then shows nothing.

Of the directives that fit an event the most particular decides
(`Filter.deciding?`): the one with the longest address; of two such the one with
a field, and of two with fields the one whose field comes later in the alphabet;
of two alike the one that was written later.  An event no directive fits is not
shown.
-/

namespace VipHost.Log

/-! ## Levels -/

/-- Levels and `off`, by name or by number; the case does not matter. -/
def limitOfText? (s : List Char) : Option (Option Level) :=
  let word := String.ofList (s.map Char.toLower)
  let number := if s.head? = some '+' then s.tail else s
  if !number.isEmpty && number.all Char.isDigit then
    match number.dropWhile (· = '0') with
    | [] => some none
    | ['1'] => some (some .error)
    | ['2'] => some (some .warn)
    | ['3'] => some (some .info)
    | ['4'] => some (some .debug)
    | ['5'] => some (some .trace)
    | _ => none
  else match word with
  | "" => some (some .error)
  | "off" => some none
  | "error" => some (some .error)
  | "warn" => some (some .warn)
  | "info" => some (some .info)
  | "debug" => some (some .debug)
  | "trace" => some (some .trace)
  | _ => none

/-! ## Directives -/

/-- A directive: which events it is about, and how far down they are shown. -/
structure Directive where
  /-- The beginning of the addresses it is about; all addresses if absent. -/
  address : Option (List Char) := none
  /-- The name of a field the events must have, if any. -/
  field : Option String := none
  /-- The least severe level shown, if any is. -/
  limit : Option Level
deriving DecidableEq, Repr

/-- What is wrong with a filter. -/
inductive FilterError where
  /-- A level has an unknown name. -/
  | level
  /-- The value of a field is neither a number nor a pattern. -/
  | value (text : List Char) (refusal : Pattern.Refusal)
  /-- A directive has another form. -/
  | form
deriving DecidableEq, Repr

/-- What is said about a filter that cannot be read. -/
def FilterError.details : FilterError → String
  | .level => "ParseError \x7b kind: Level(ParseLevelFilterError(())) \x7d"
  | .value text refusal =>
    "ParseError \x7b kind: Field(" ++ refusal.details (String.ofList text) ++ ") \x7d"
  | .form => "ParseError \x7b kind: Other(None) \x7d"

/-- The first character of a directive without brackets. -/
def isAddressStart (c : Char) : Bool :=
  c = '-' || c = ':' || c = '_' || Text.isAlphanumeric c

/-- How many bytes a text takes. -/
def byteCount (s : List Char) : Nat := s.foldl (fun n c => n + c.utf8Size) 0

/-- A text cut after a number of bytes, unless that is inside a character. -/
def splitAtByte? : Nat → List Char → Option (List Char × List Char)
  | 0, s => some ([], s)
  | _, [] => none
  | n, c :: s =>
    if c.utf8Size ≤ n then
      (splitAtByte? (n - c.utf8Size) s).map fun (front, back) => (c :: front, back)
    else none

/-- A directive as it is written, blanks included.  Where its parts begin and
end is found in the text without the blanks at its ends, but counted from the
beginning of the whole text: blanks in front move all parts. -/
structure Writing where
  /-- All of the text. -/
  whole : List Char
deriving DecidableEq, Repr

namespace Writing

/-- The text without the blanks at its ends. -/
def body (w : Writing) : List Char := Text.trim w.whole

/-- What of the whole text stands where the body has `rest` at its end. -/
def tail (w : Writing) (rest : List Char) : Except FilterError (List Char) :=
  match splitAtByte? (byteCount w.body - byteCount rest) w.whole with
  | some (_, part) => .ok part
  | none => .error .form

/-- What of the whole text stands where the body has `part` with `rest` after
it. -/
def part (w : Writing) (part rest : List Char) : Except FilterError (List Char) := do
  match splitAtByte? (byteCount part) (← w.tail (part ++ rest)) with
  | some (part, _) => return part
  | none => throw .form

end Writing

/-- The level after an equals sign; nothing there stands for every level. -/
def limitAfterEquals (s : List Char) : Except FilterError (Option Level) :=
  if s.isEmpty then .ok (some .trace)
  else match limitOfText? s with
  | some l => .ok l
  | none => .error .level

/-- A number after a plus sign, perhaps with a fraction and an exponent. -/
def isPlusNumber : List Char → Bool
  | '+' :: s =>
    let whole := s.takeWhile Char.isDigit
    let s' := s.drop whole.length
    let (fraction, s') := match s' with
      | '.' :: s' => (s'.takeWhile Char.isDigit, s'.dropWhile Char.isDigit)
      | _ => ([], s')
    let exponent := match s' with
      | [] => true
      | e :: '+' :: digits => e.toLower = 'e' && !digits.isEmpty && digits.all Char.isDigit
      | e :: '-' :: digits => e.toLower = 'e' && !digits.isEmpty && digits.all Char.isDigit
      | e :: digits => e.toLower = 'e' && !digits.isEmpty && digits.all Char.isDigit
    (exponent && !(whole.isEmpty && fraction.isEmpty)) ||
      ["inf", "infinity", "nan"].contains (String.ofList (s.map Char.toLower))
  | _ => false

/-- Refuse a value that cannot be asked for.  It has to be a number or a pattern,
and every number but one after a plus sign is a pattern too. -/
def checkValue (s : List Char) : Except FilterError Unit :=
  if isPlusNumber s then .ok () else (Pattern.check s).mapError (.value s)

/-- What a directive says about fields, between its braces: a name, or nothing
if it asks for a value. -/
def fieldOfText (s : List Char) : Except FilterError (Option String) :=
  let name := s.takeWhile (· ≠ '=')
  match s.drop name.length with
  | [] => if name.isEmpty then .error .form else .ok (some (String.ofList name))
  | _ :: value => do
    checkValue (value.takeWhile (· ≠ '='))
    return none

namespace Directive

/-- What comes after the closing bracket. -/
def afterBracket (w : Writing) : List Char → Except FilterError (Option Level)
  | [] => .ok (some .trace)
  | '=' :: rest => do limitAfterEquals (← w.tail rest)
  | _ => .error .form

/-- What comes after the opening bracket, given the address in front of it. -/
def inBrackets (w : Writing) (address : Option (List Char)) (s : List Char) :
    Except FilterError (Option Directive) :=
  let span := s.takeWhile fun c => c ≠ ']' && c ≠ '\x7b'
  match s.drop span.length with
  | ']' :: rest => do
    let _ ← afterBracket w rest
    return none
  | '\x7b' :: rest => do
    let text := rest.takeWhile (· ≠ '\x7d')
    match rest.drop text.length with
    | brace :: after => do
      let field ← fieldOfText (← w.part text (brace :: after))
      match after with
      | ']' :: after => do
        let limit ← afterBracket w after
        return if span.isEmpty && field.isSome then some { address, field, limit } else none
      | _ => throw .form
    | [] => throw .form
  | _ => .error .form

/-- What a directive says, if it is not about spans. -/
def ofWriting (w : Writing) : Except FilterError (Option Directive) :=
  match w.body with
  | [] => .error .form
  | '[' :: rest => inBrackets w none rest
  | first :: _ =>
    if !isAddressStart first then .error .form
    else
      let name := w.body.takeWhile fun c => c ≠ '=' && c ≠ '['
      match w.body.drop name.length with
      | [] =>
        match limitOfText? w.whole with
        | some limit => .ok (some { limit })
        | none => .ok (some { address := some w.whole, limit := some .trace })
      | '=' :: rest => do
        let address ← w.part name ('=' :: rest)
        return some { address := some address, limit := ← limitAfterEquals (← w.tail rest) }
      | bracket :: rest => do
        let address ← w.part name (bracket :: rest)
        inBrackets w (some address) rest

/-- Whether a directive is about an event. -/
def fits (d : Directive) (e : Event) : Bool :=
  d.address.all (·.isPrefixOf e.source.address.toList) &&
    d.field.all fun name => name = "message" || (e.fields.lookup name).isSome

/-- The room an address takes; an empty one is still more than none. -/
def addressSize (d : Directive) : Nat := d.address.elim 0 fun address => byteCount address + 1

/-- Whether the first directive is at least as particular as the second. -/
def atLeast (d e : Directive) : Bool :=
  e.addressSize < d.addressSize ||
    (e.addressSize = d.addressSize && (match d.field, e.field with
      | _, none => true
      | none, some _ => false
      | some a, some b => !(a < b)))

end Directive

/-! ## Filters -/

/-- A filter: its directives in the order they were written. -/
structure Filter where
  /-- The directives. -/
  directives : List Directive
deriving DecidableEq, Repr

namespace Filter

/-- The filter a text stands for. -/
def ofText (s : String) : Except FilterError Filter := do
  let parts := (s.toList.splitOn ',').filter (!·.isEmpty)
  let directives ← parts.mapM fun part => Directive.ofWriting ⟨part⟩
  return ⟨directives.filterMap id⟩

/-- The directive that decides about an event: the most particular one, and of
several alike the last. -/
def deciding? (f : Filter) (e : Event) : Option Directive :=
  f.directives.foldl
    (fun best d => if d.fits e && best.all (d.atLeast ·) then some d else best) none

/-- Whether a filter shows an event. -/
def shows (f : Filter) (e : Event) : Bool :=
  match f.deciding? e with
  | some d => e.within d.limit
  | none => false

end Filter

end VipHost.Log
