import VipHost.Binary64.Decimal
import VipHost.Toml.Lexis

/-!
# Numbers and moments of TOML

Integers have 64 bits with a sign, in decimal or, without a sign in front, in
base sixteen, eight or two.  Floats have a fraction, an exponent or both, and
stand for the nearest double; one too large for every double is refused.
Decimal numbers have no zero in front.

A date or a time is only recognised.  Days are checked against the month, and a
minute may have a leap second.
-/

namespace VipHost.Toml

/-! ## Moments -/

/-- A fixed number of digits whose number is in a range. -/
def field? (width least greatest : Nat) (s : List Char) : Option (Nat × List Char) :=
  let digits := s.take width
  let n := numberOfDigits 10 digits
  if digits.length = width && digits.all Char.isDigit && least ≤ n && n ≤ greatest then
    some (n, s.drop width)
  else none

/-- What is left after one character. -/
def char? (c : Char) : List Char → Option (List Char)
  | d :: rest => if c = d then some rest else none
  | [] => none

/-- How many days a month has. -/
def daysIn (year month : Nat) : Nat :=
  if month = 2 then
    if year % 4 = 0 && (year % 100 ≠ 0 || year % 400 = 0) then 29 else 28
  else if month = 4 || month = 6 || month = 9 || month = 11 then 30
  else 31

/-- What is left after the year of a date and the dash after it. -/
def year? (s : List Char) : Option (Nat × List Char) := do
  let (year, s) ← field? 4 0 9999 s
  return (year, ← char? '-' s)

/-- What is left after the month and the day of a date. -/
def monthAndDay? (year : Nat) (s : List Char) : Option (List Char) := do
  let (month, s) ← field? 2 1 12 s
  let s ← char? '-' s
  let (day, s) ← field? 2 1 31 s
  if day ≤ daysIn year month then some s else none

/-- What is left after the hour of a time and the colon after it. -/
def hour? (s : List Char) : Option (List Char) := do
  let (_, s) ← field? 2 0 23 s
  char? ':' s

/-- What is left after the minute and the second of a time. -/
def minuteAndSecond? (s : List Char) : Option (List Char) := do
  let (_, s) ← field? 2 0 59 s
  let s ← char? ':' s
  let (_, s) ← field? 2 0 60 s
  match s with
  | '.' :: rest =>
    if (rest.takeWhile Char.isDigit).isEmpty then some s else some (rest.dropWhile Char.isDigit)
  | _ => some s

/-- What is left after the offset of a time, if there is one. -/
def offset? (s : List Char) : Option (List Char) :=
  match s with
  | 'Z' :: rest => some rest
  | 'z' :: rest => some rest
  | c :: rest =>
    if c = '+' || c = '-' then do
      let rest ← hour? rest
      let (_, rest) ← field? 2 0 59 rest
      some rest
    else some s
  | [] => some s

/-- What is left after the time that may follow a date. -/
def timeAfterDate? (s : List Char) : Option (List Char) :=
  match s with
  | c :: rest =>
    if c = 'T' || c = 't' || c = ' ' then
      match hour? rest with
      | some rest => (minuteAndSecond? rest).bind offset?
      | none => some s
    else some s
  | [] => some s

/-- What is left after a date or a time, if the text begins like one.  The inner
option is empty when it only begins like one. -/
def moment? (s : List Char) : Option (Option (List Char)) :=
  match year? s with
  | some (year, rest) => some ((monthAndDay? year rest).bind timeAfterDate?)
  | none => (hour? s).map minuteAndSecond?

/-! ## Numbers -/

/-- Whether a sign is in front that makes a number negative, and what is left
after the sign. -/
def sign (s : List Char) : Bool × List Char :=
  match s with
  | '-' :: rest => (true, rest)
  | '+' :: rest => (false, rest)
  | _ => (false, s)

/-- The digits of a decimal integer: a zero, or digits that begin with another
one. -/
def decimalDigits? (s : List Char) : Option (List Char × List Char) :=
  match s with
  | '0' :: rest => some (['0'], rest)
  | _ => digits? Char.isDigit s

/-- The digits after the point, if there is one. -/
def fraction? (s : List Char) : Option (List Char × List Char) :=
  match s with
  | '.' :: rest => digits? Char.isDigit rest
  | _ => some ([], s)

/-- The exponent, if there is one. -/
def exponent? (s : List Char) : Option (Int × List Char) :=
  match s with
  | c :: rest =>
    if c = 'e' || c = 'E' then do
      let (negative, rest) := sign rest
      let (digits, rest) ← digits? Char.isDigit rest
      let n := numberOfDigits 10 digits
      some (if negative then -(n : Int) else n, rest)
    else some (0, s)
  | [] => some (0, s)

/-- An integer of 64 bits with a sign. -/
def integerInRange (n : Int) : Option Scalar :=
  if -9223372036854775808 ≤ n ∧ n ≤ 9223372036854775807 then some (.integer n) else none

/-- An integer in another base, after what names the base. -/
def basedInteger? (base : Nat) (isDigit : Char → Bool) (s : List Char) :
    Option (Scalar × List Char) := do
  let (digits, rest) ← digits? isDigit s
  return (← integerInRange (numberOfDigits base digits), rest)

/-- A number in decimal after its sign: an integer, or a float if a fraction or
an exponent follows. -/
def decimal? (negative : Bool) (s : List Char) : Option (Scalar × List Char) := do
  let (whole, s) ← decimalDigits? s
  match s with
  | c :: _ =>
    if c = '.' || c = 'e' || c = 'E' then
      let (fraction, s) ← fraction? s
      let (exponent, s) ← exponent? s
      let x := Binary64.ofDecimal negative (numberOfDigits 10 (whole ++ fraction))
        (exponent - fraction.length)
      if x = .infinity false then none else some (.float x, s)
    else integer whole s
  | [] => integer whole s
where
  /-- The integer with these digits. -/
  integer (whole s : List Char) : Option (Scalar × List Char) := do
    let n : Int := numberOfDigits 10 whole
    return (← integerInRange (if negative then -n else n), s)

/-- A number or a moment. -/
def number? (s : List Char) : Option (Scalar × List Char) :=
  match moment? s with
  | some rest => rest.map (.moment, ·)
  | none =>
    match s with
    | '0' :: 'x' :: rest => basedInteger? 16 isHexDigit rest
    | '0' :: 'o' :: rest => basedInteger? 8 isOctalDigit rest
    | '0' :: 'b' :: rest => basedInteger? 2 isBinaryDigit rest
    | _ =>
      match sign s with
      | (negative, 'i' :: 'n' :: 'f' :: rest) => some (.float (.infinity negative), rest)
      | (_, 'n' :: 'a' :: 'n' :: rest) => some (.float .nan, rest)
      | (negative, rest) => decimal? negative rest

end VipHost.Toml
