import VipHost.Toml.Lexis

/-!
# Texts of TOML

Texts stand in double quotes, where a backslash begins an escape, or in single
quotes, where nothing does.  Three quotes begin a text of several lines: a line
end right after them is dropped, every line end inside is one newline, and one
or two quotes inside are just quotes.  Between three double quotes a backslash
at the end of a line joins it with the next text.
-/

namespace VipHost.Toml

/-! ## Escapes -/

/-- The character of a code point in hexadecimal. -/
def charOfHex? (digits : List Char) : Option Char :=
  let n := numberOfDigits 16 digits
  if digits.all isHexDigit && n.isValidChar then some (Char.ofNat n) else none

/-- The character for what follows a backslash. -/
def escape? : Reader Char
  | 'b' :: rest => some ('\x08', rest)
  | 'f' :: rest => some ('\x0c', rest)
  | 'n' :: rest => some ('\n', rest)
  | 'r' :: rest => some ('\r', rest)
  | 't' :: rest => some ('\t', rest)
  | '"' :: rest => some ('"', rest)
  | '\\' :: rest => some ('\\', rest)
  | 'u' :: rest =>
    if rest.length < 4 then none else (charOfHex? (rest.take 4)).map (·, rest.drop 4)
  | 'U' :: rest =>
    if rest.length < 8 then none else (charOfHex? (rest.take 8)).map (·, rest.drop 8)
  | _ => none

/-- What is left after a joined line end: blanks, the line end, and all blanks
and line ends after it. -/
def joinedLine? (s : List Char) : Option (List Char) :=
  (newline? (skipBlanks s)).map skipBlankLines

/-! ## Texts on one line -/

/-- A character that stands for itself between double quotes. -/
def isBasicChar (c : Char) : Bool := isPlain c && c ≠ '"' && c ≠ '\\'

/-- One round of the text between double quotes. -/
def basicStep (s : List Char) : Option (Round (List Char)) :=
  match s with
  | '"' :: rest => some (.last [] rest)
  | '\\' :: rest => (escape? rest).map fun (c, rest) => .more [c] rest
  | _ =>
    let run := s.takeWhile isBasicChar
    if run.isEmpty then none else some (.more run (s.drop run.length))

/-- The text after a double quote. -/
def basic? : Reader (List Char) := fun s =>
  (collect basicStep s).map fun (pieces, rest) => (pieces.flatten, rest)

/-- A character that stands for itself between single quotes. -/
def isLiteralChar (c : Char) : Bool := isPlain c && c ≠ '\''

/-- The text after a single quote. -/
def literal? : Reader (List Char) := fun s =>
  let run := s.takeWhile isLiteralChar
  match s.drop run.length with
  | '\'' :: rest => some (run, rest)
  | _ => none

/-! ## Texts on several lines -/

/-- How many quotes stand in front. -/
def countQuotes (quote : Char) (s : List Char) : Nat := (s.takeWhile (· = quote)).length

/-- One round of a text between three quotes, given how it treats a character
that is neither a quote nor a line end. -/
def multiStep (quote : Char) (other : List Char → Option (Round (List Char))) (s : List Char) :
    Option (Round (List Char)) :=
  let quotes := countQuotes quote s
  if 3 ≤ quotes then
    let taken := min quotes 5
    some (.last [List.replicate (taken - 3) quote] (s.drop taken))
  else if 0 < quotes then some (.more (List.replicate quotes quote) (s.drop quotes))
  else match newline? s with
  | some rest => some (.more ['\n'] rest)
  | none => other s

/-- A round between three double quotes that is neither quotes nor a line end. -/
def multiBasicOther (s : List Char) : Option (Round (List Char)) :=
  match s with
  | '\\' :: rest =>
    match joinedLine? rest with
    | some rest => some (.more [] rest)
    | none => (escape? rest).map fun (c, rest) => .more [c] rest
  | _ =>
    let run := s.takeWhile isBasicChar
    if run.isEmpty then none else some (.more run (s.drop run.length))

/-- A round between three single quotes that is neither quotes nor a line end. -/
def multiLiteralOther (s : List Char) : Option (Round (List Char)) :=
  let run := s.takeWhile isLiteralChar
  if run.isEmpty then none else some (.more run (s.drop run.length))

/-- The text after three quotes. -/
def multi? (quote : Char) (other : List Char → Option (Round (List Char))) : Reader (List Char) :=
  fun s =>
    (collect (multiStep quote other) ((newline? s).getD s)).map fun (pieces, rest) =>
      (pieces.flatten, rest)

/-! ## All texts -/

/-- A text, its quotes included. -/
def text? : Reader (List Char)
  | '"' :: '"' :: '"' :: rest => multi? '"' multiBasicOther rest
  | '"' :: rest => basic? rest
  | '\'' :: '\'' :: '\'' :: rest => multi? '\'' multiLiteralOther rest
  | '\'' :: rest => literal? rest
  | _ => none

end VipHost.Toml
