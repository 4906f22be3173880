import VipHost.Toml.Decode
import VipHost.Toml.Document

/-!
# What is wrong with a text

A text is refused either because it is not TOML or because what it says does not
fit the type.  In the second case the message shows the line, with carets under
the value:

    TOML parse error at line 2, column 6
      |
    2 | sp = 999
      |      ^^^
    invalid value: integer `999`, expected u8

The margin is as wide as the number of the line.  Columns count characters, and
there are as many carets as the value has bytes, but at least one and none past
the end of the line.
-/

namespace VipHost.Toml

/-- Why a text is refused. -/
inductive Error where
  /-- It is not TOML. -/
  | notToml (source : String)
  /-- A value in it does not fit. -/
  | misfit (source : String) (problem : Problem)
deriving DecidableEq, Repr

/-- The value that a text stands for. -/
def decodeText {α : Type} (field : α → Entry → Except Problem α) (initial : α) (source : String) :
    Except Error α :=
  match document? source with
  | none => .error (.notToml source)
  | some entries => (fields field initial entries).mapError (.misfit source)

/-! ## Places -/

/-- How many bytes characters take. -/
def byteCount (s : List Char) : Nat := s.foldl (fun n c => n + c.utf8Size) 0

/-- The text in front of a place. -/
def before (source : List Char) (left : Nat) : List Char := source.take (source.length - left)

/-- A place as a reader counts it. -/
structure Place where
  /-- The line, counted from zero. -/
  line : Nat
  /-- The column, counted from zero. -/
  column : Nat
deriving DecidableEq, Repr

/-- The line and column of a place. -/
def placeOf (source : List Char) (left : Nat) : Place :=
  let front := before source left
  ⟨front.count '\n', (front.reverse.takeWhile (· ≠ '\n')).length⟩

/-- The bytes of a text that a span covers. -/
def bytesOf (source : List Char) (span : Span) : Nat × Nat :=
  (byteCount (before source span.before), byteCount (before source span.after))

/-! ## Messages -/

/-- The line with the value, and carets under it. -/
def excerpt (source : List Char) (span : Span) : String :=
  let place := placeOf source span.before
  let (first, last) := bytesOf source span
  let content := (source.splitOn '\n')[place.line]?.getD []
  let carets := max 1 (min (last - first) (byteCount content - place.column))
  let number := toString (place.line + 1)
  let margin := String.ofList (List.replicate (number.length + 1) ' ') ++ "|"
  "TOML parse error at line " ++ number ++ ", column " ++ toString (place.column + 1) ++ "\n" ++
    margin ++ "\n" ++
    number ++ " | " ++ String.ofList content ++ "\n" ++
    margin ++ String.ofList (List.replicate (place.column + 1) ' ' ++ List.replicate carets '^') ++
    "\n"

/-- What is said about a problem. -/
def Problem.message (source : String) (p : Problem) : String :=
  let said := p.cause.message ++ "\n"
  match p.span with
  | some span => excerpt source.toList span ++ said
  | none =>
    if p.keys.isEmpty then said
    else said ++ "in `" ++ String.intercalate "." p.keys ++ "`\n"

/-- What is said about a refused text. -/
def Error.message : Error → String
  | .notToml _ => "TOML parse error\n"
  | .misfit source p => p.message source

/-- A refused text with all parts of what is wrong. -/
def Error.details (e : Error) : String :=
  let (said, source, keys, span) := match e with
    | .notToml source => ("TOML parse error", source, [], "None")
    | .misfit source p =>
      let span := match p.span with
        | some span =>
          let (first, last) := bytesOf source.toList span
          "Some(" ++ toString first ++ ".." ++ toString last ++ ")"
        | none => "None"
      (p.cause.message, source, p.keys, span)
  "TomlError \x7b message: " ++ Text.quoted said ++ ", raw: Some(" ++ Text.quoted source ++
    "), keys: " ++ Text.bracketed (keys.map Text.quoted) ++ ", span: " ++ span ++ " \x7d"

end VipHost.Toml
