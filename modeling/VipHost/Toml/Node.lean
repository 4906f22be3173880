import VipHost.Binary64.Basic

/-!
# TOML documents

A document is a table of entries in the order in which their keys first come
up.  Every value remembers the *span* of text it was written in, so that what is
wrong with a value can be shown at its place; tables that no bracket opens have
none.

A place in a text is given by the number of characters that are left after it.
So a reader, which is a function of the text that is left, needs no other
record of where it is.
-/

namespace VipHost.Toml

/-- A stretch of text. -/
structure Span where
  /-- How many characters are left at its start. -/
  before : Nat
  /-- How many characters are left at its end. -/
  after : Nat
deriving DecidableEq, Repr, Inhabited

/-- A key and where it is written. -/
structure Key where
  /-- The key, without quotes. -/
  name : String
  /-- The key as written, with its quotes. -/
  span : Span
deriving DecidableEq, Repr, Inhabited

/-- A value without parts. -/
inductive Scalar where
  | text (s : String)
  | integer (n : Int)
  | float (x : Binary64)
  | boolean (b : Bool)
  /-- A date, a time, or both. -/
  | moment
deriving DecidableEq, Repr, Inhabited

/-- What brought a table into being. -/
inductive Origin where
  /-- Braces around its entries. -/
  | braces
  /-- A header of its own. -/
  | header
  /-- The header of a table inside it. -/
  | implied
  /-- A dotted key. -/
  | dotted
deriving DecidableEq, Repr

/-- A value of any form. -/
inductive Node where
  | scalar (span : Span) (value : Scalar)
  /-- Values in brackets. -/
  | array (span : Span) (items : List Node)
  /-- Values by key. -/
  | table (span : Option Span) (origin : Origin) (entries : List (Key × Node))
  /-- Tables with a common header, the latest first. -/
  | tables (span : Option Span) (latestFirst : List Node)

instance : Inhabited Node := ⟨.table none .braces []⟩

/-- A key with its value. -/
abbrev Entry := Key × Node

/-- The span of a value, if it was written in one piece. -/
def Node.span? : Node → Option Span
  | .scalar span _ => some span
  | .array span _ => some span
  | .table span _ _ => span
  | .tables span _ => span

/-- The value of a key. -/
def find? (entries : List Entry) (name : String) : Option Node :=
  (entries.find? (·.1.name = name)).map (·.2)

/-- The entries without a key. -/
def erase (entries : List Entry) (name : String) : List Entry :=
  entries.filter (·.1.name ≠ name)

/-- The entries with another value for a key they have. -/
def replace (entries : List Entry) (name : String) (node : Node) : List Entry :=
  entries.map fun (key, old) => if key.name = name then (key, node) else (key, old)

end VipHost.Toml
