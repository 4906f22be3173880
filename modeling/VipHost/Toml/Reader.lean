import VipHost.Toml.Number
import VipHost.Toml.Table
import VipHost.Toml.Text

/-!
# Reading TOML

A text is read line by line.  A line is blank, or a header, or a key with its
value.  Values may have values inside; how deep they may be nested, and how many
parts a dotted key may have, is bounded.
-/

namespace VipHost.Toml

/-- How many brackets and braces may be open around a value. -/
def nestingLimit : Nat := 79

/-- How many parts a dotted key may have. -/
def partsLimit : Nat := 79

/-! ## Keys -/

/-- A character of a key without quotes. -/
def isBareChar (c : Char) : Bool := c.isAlphanum || c = '-' || c = '_'

/-- One part of a key. -/
def keyPart? (s : List Char) : Option (Key × List Char) :=
  let read := match s with
    | '"' :: rest => basic? rest
    | '\'' :: rest => literal? rest
    | _ =>
      let run := s.takeWhile isBareChar
      if run.isEmpty then none else some (run, s.drop run.length)
  read.map fun (name, rest) => (⟨String.ofList name, ⟨s.length, rest.length⟩⟩, rest)

/-- One round of a key: a part with blanks around it, the last one if no dot
follows. -/
def keyStep (s : List Char) : Option (Round Key) :=
  (keyPart? (skipBlanks s)).map fun (key, rest) =>
    match skipBlanks rest with
    | '.' :: rest => .more key rest
    | rest => .last [key] rest

/-- A key with the blanks around it: the parts before the last, and the last. -/
def key? (s : List Char) : Option ((List Key × Key) × List Char) := do
  let (parts, rest) ← collect keyStep s
  let last ← parts.getLast?
  if parts.length ≤ partsLimit then some ((parts.dropLast, last), rest) else none

/-- A key, an equals sign and a value, with the blanks around them. -/
def pair? (value : Reader Node) (s : List Char) :
    Option ((List Key × Key × Node) × List Char) := do
  let ((path, key), s) ← key? s
  let s ← char? '=' s
  let (node, s) ← value (skipBlanks s)
  return ((path, key, node), skipBlanks s)

/-! ## Values -/

/-- A value with nothing inside. -/
def scalar? (s : List Char) : Option (Scalar × List Char) :=
  match s with
  | 't' :: 'r' :: 'u' :: 'e' :: rest => some (.boolean true, rest)
  | 'f' :: 'a' :: 'l' :: 's' :: 'e' :: rest => some (.boolean false, rest)
  | '"' :: _ => (text? s).map fun (t, rest) => (.text (String.ofList t), rest)
  | '\'' :: _ => (text? s).map fun (t, rest) => (.text (String.ofList t), rest)
  | _ => number? s

/-- One round of an array after its bracket. -/
def itemStep (value : Reader Node) (s : List Char) : Option (Round Node) :=
  match skipGap false s with
  | ']' :: rest => some (.last [] rest)
  | s =>
    match value s with
    | none => none
    | some (node, rest) =>
      match skipGap false rest with
      | ',' :: rest => some (.more node rest)
      | ']' :: rest => some (.last [node] rest)
      | _ => none

/-- One round of an inline table after its brace or a comma. -/
def pairStep (value : Reader Node) (s : List Char) :
    Option (Round (List Key × Key × Node)) :=
  match pair? value s with
  | none => none
  | some (pair, rest) =>
    match rest with
    | ',' :: rest => some (.more pair rest)
    | '\x7d' :: rest => some (.last [pair] rest)
    | _ => none

/-- The pairs of an inline table after its brace. -/
def pairs? (value : Reader Node) : Reader (List (List Key × Key × Node)) := fun s =>
  match skipBlanks s with
  | '\x7d' :: rest => some ([], rest)
  | _ => collect (pairStep value) s

/-- The table of the pairs between braces. -/
def tableOfPairs (pairs : List (List Key × Key × Node)) : Option (List Entry) :=
  pairs.foldlM (fun entries (path, key, node) => insertDotted path key node entries) []

/-- A value, with at most the given number of brackets and braces open
inside. -/
def value? : Nat → Reader Node
  | 0, s => (scalar? s).map fun (v, rest) => (.scalar ⟨s.length, rest.length⟩ v, rest)
  | depth + 1, s =>
    match s with
    | '[' :: rest =>
      (collect (itemStep (value? depth)) rest).map fun (items, rest) =>
        (.array ⟨s.length, rest.length⟩ items, rest)
    | '\x7b' :: rest => do
      let (pairs, rest) ← pairs? (value? depth) rest
      let entries ← tableOfPairs pairs
      return (.table (some ⟨s.length, rest.length⟩) .braces entries, rest)
    | _ => (scalar? s).map fun (v, rest) => (.scalar ⟨s.length, rest.length⟩ v, rest)

/-! ## Lines -/

/-- What a line says. -/
inductive Line where
  /-- A value for a key. -/
  | pair (path : List Key) (key : Key) (node : Node)
  /-- A table begins. -/
  | table (path : List Key) (key : Key) (span : Span)
  /-- A further table of those with a common header begins. -/
  | nextTable (path : List Key) (key : Key) (span : Span)

/-- A header. -/
def header? (s : List Char) : Option (Line × List Char) :=
  match s with
  | '[' :: '[' :: rest => do
    let ((path, key), rest) ← key? rest
    let rest ← char? ']' rest
    let rest ← char? ']' rest
    return (.nextTable path key ⟨s.length, rest.length⟩, rest)
  | '[' :: rest => do
    let ((path, key), rest) ← key? rest
    let rest ← char? ']' rest
    return (.table path key ⟨s.length, rest.length⟩, rest)
  | _ => none

/-- What stands on a line that is neither blank nor only a comment. -/
def statement? (s : List Char) : Option (Line × List Char) :=
  match s with
  | '[' :: _ => header? s
  | _ => (pair? (value? nestingLimit) s).map fun ((path, key, node), rest) =>
    (.pair path key node, rest)

/-- One round of a text: a line. -/
def lineStep (s : List Char) : Option (Round (Option Line)) :=
  match skipBlanks s with
  | [] => some (.last [] [])
  | '#' :: _ => (lineEnd? s).map (.more none)
  | '\n' :: rest => some (.more none rest)
  | '\r' :: rest => (newline? ('\r' :: rest)).map (.more none)
  | s => do
    let (line, rest) ← statement? s
    return .more (some line) (← lineEnd? rest)

/-- The lines of a text that say something.  A byte order mark in front is
dropped. -/
def lines? (s : List Char) : Option (List Line) :=
  let s := match s with
    | '\ufeff' :: rest => rest
    | _ => s
  (collect lineStep s).map fun (lines, _) => lines.filterMap id

end VipHost.Toml
