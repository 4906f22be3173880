import VipHost.Binary64.Decimal
import VipHost.Text.Quoted
import VipHost.Toml.Node

/-!
# Values of a type

A document is decoded into a type field by field, in the order of the document.
What does not fit is a `Problem`: its cause, the span it is shown at and the
keys that lead to it.  A problem is shown at the innermost value that was
written in one piece; a table without brackets of its own is shown at its key.
Keys that the type does not have are passed over.
-/

namespace VipHost.Toml

/-! ## Problems -/

/-- What was found in place of a value of the type. -/
inductive Found where
  | scalar (v : Scalar)
  | sequence
  | map
deriving DecidableEq, Repr

/-- How a value that was found is named. -/
def Found.description : Found → String
  | .scalar (.text s) => "string " ++ Text.quoted s
  | .scalar (.integer n) => "integer `" ++ toString n ++ "`"
  | .scalar (.float x) => "floating point `" ++ x.toText .writtenOut ++ "`"
  | .scalar (.boolean b) => "boolean `" ++ toString b ++ "`"
  | .scalar .moment => "map"
  | .sequence => "sequence"
  | .map => "map"

/-- Why a value does not fit. -/
inductive Cause where
  /-- A value of another type. -/
  | wrongType (found : Found) (expected : String)
  /-- An integer out of range. -/
  | outOfRange (n : Int) (expected : String)
  /-- Too few items. -/
  | wrongLength (length : Nat) (expected : String)
  /-- A name that is none of those known. -/
  | unknownName (name : String) (known : List String)
  /-- Neither a name nor a table with one. -/
  | noName
  /-- A table without a name. -/
  | missingName
  /-- A table with several names. -/
  | severalNames
  /-- A name with something other than a table or a list behind it. -/
  | noTable (found : String)
  /-- A name with a table or list behind it that is not empty. -/
  | notEmpty (expected : String)
deriving DecidableEq, Repr

/-- What is said about a value that does not fit. -/
def Cause.message : Cause → String
  | .wrongType found expected =>
    "invalid type: " ++ found.description ++ ", expected " ++ expected
  | .outOfRange n expected =>
    "invalid value: integer `" ++ toString n ++ "`, expected " ++ expected
  | .wrongLength length expected =>
    "invalid length " ++ toString length ++ ", expected " ++ expected
  | .unknownName name known =>
    "unknown variant `" ++ name ++ "`, expected " ++
      String.intercalate " or " (known.map fun k => "`" ++ k ++ "`")
  | .noName => "wanted string or table"
  | .missingName => "wanted exactly 1 element, found 0 elements"
  | .severalNames => "wanted exactly 1 element, more than 1 element"
  | .noTable found => "expected table, found " ++ found
  | .notEmpty expected => "expected empty " ++ expected

/-- A value that does not fit. -/
structure Problem where
  /-- Why. -/
  cause : Cause
  /-- Where it is shown. -/
  span : Option Span := none
  /-- The keys that lead to it. -/
  keys : List String := []
deriving DecidableEq, Repr

/-- A decoder of one value. -/
abbrev Decoder (α : Type) := Node → Except Problem α

/-- A problem with a value itself. -/
def Node.problem (n : Node) (cause : Cause) : Problem := { cause, span := n.span? }

/-- A result whose problems are shown at the given span unless they have one. -/
def shownAt {α : Type} (span : Option Span) (r : Except Problem α) : Except Problem α :=
  r.mapError fun p => { p with span := p.span <|> span }

/-! ## Values without parts -/

/-- What a value is found to be. -/
def Node.found : Node → Found
  | .scalar _ v => .scalar v
  | .array _ _ => .sequence
  | .tables _ _ => .sequence
  | .table _ _ _ => .map

/-- Refuse a value of another type. -/
def Node.refuse {α : Type} (n : Node) (expected : String) : Except Problem α :=
  .error (n.problem (.wrongType n.found expected))

/-- A natural below a bound. -/
def natural (expected : String) (bound : Nat) : Decoder Nat
  | n@(.scalar _ (.integer i)) =>
    if 0 ≤ i ∧ i < bound then .ok i.toNat else .error (n.problem (.outOfRange i expected))
  | n => n.refuse expected

/-- A natural of 64 bits. -/
def natural64 : Decoder UInt64 := fun n => (natural "u64" UInt64.size n).map UInt64.ofNat

/-- A natural of 16 bits. -/
def natural16 : Decoder UInt16 := fun n => (natural "u16" UInt16.size n).map UInt16.ofNat

/-- A natural of 8 bits. -/
def natural8 : Decoder UInt8 := fun n => (natural "u8" UInt8.size n).map UInt8.ofNat

/-- A float, or an integer as the nearest float. -/
def float : Decoder Binary64
  | .scalar _ (.float x) => .ok x
  | .scalar _ (.integer i) => .ok (.ofInt i)
  | n => n.refuse "f64"

/-- A boolean. -/
def boolean : Decoder Bool
  | .scalar _ (.boolean b) => .ok b
  | n => n.refuse "a boolean"

/-- A text, under the name it is asked for. -/
def textNamed (expected : String) : Decoder String
  | .scalar _ (.text s) => .ok s
  | n => n.refuse expected

/-- A text. -/
def text : Decoder String := textNamed "a string"

/-- A path of a file. -/
def path : Decoder String := textNamed "path string"

/-! ## Values with parts -/

/-- The items of a list; the tables with a common header are one. -/
def Node.items? : Node → Option (List Node)
  | .array _ items => some items
  | .tables _ latestFirst => some latestFirst.reverse
  | _ => none

/-- The first items of a list, as many as asked for. -/
def listOf {α : Type} (count : Nat) (item : Decoder α) : Decoder (Vector α count) := fun n =>
  let expected := "an array of length " ++ toString count
  match n.items? with
  | none => n.refuse expected
  | some items => do
    let values ← shownAt n.span? ((items.take count).mapM item)
    if h : values.toArray.size = count then return ⟨values.toArray, h⟩
    else .error (n.problem (.wrongLength values.length expected))

/-- What stands behind a name in a table. -/
def nothingBehind (n : Node) : Except Problem Unit :=
  match n with
  | .table _ _ entries =>
    if entries.isEmpty then .ok () else .error (n.problem (.notEmpty "table"))
  | .array _ items => if items.isEmpty then .ok () else .error (n.problem (.notEmpty "table"))
  | .tables _ items => if items.isEmpty then .ok () else .error (n.problem (.notEmpty "array"))
  | .scalar _ v => .error (n.problem (.noTable (typeName v)))
where
  /-- What a value without parts is called. -/
  typeName : Scalar → String
    | .text _ => "string"
    | .integer _ => "integer"
    | .float _ => "float"
    | .boolean _ => "boolean"
    | .moment => "datetime"

/-- One of some names: the name as a text, or the key of a table with one
entry that has nothing in it. -/
def oneOf {α : Type} (known : List String) (ofName? : String → Option α) : Decoder α := fun n =>
  let named (name : String) (span : Option Span) : Except Problem α :=
    match ofName? name with
    | some a => .ok a
    | none => .error { cause := .unknownName name known, span }
  shownAt n.span? <|
    match n with
    | .scalar _ (.text s) => named s none
    | .table _ _ [] => .error (n.problem .missingName)
    | .table _ _ [(key, behind)] => do
      let a ← named key.name (some key.span)
      nothingBehind behind
      return a
    | .table _ _ _ => .error (n.problem .severalNames)
    | _ => .error (n.problem .noName)

/-- Decode the value of a key; what is wrong with it is shown at the value, or
at the key if the value was not written in one piece. -/
def atKey {α : Type} (entry : Entry) (decode : Decoder α) : Except Problem α :=
  (decode entry.2).mapError fun p =>
    { p with
      span := p.span <|> entry.2.span? <|> some entry.1.span
      keys := entry.1.name :: p.keys }

/-- Decode the entries of a document one after the other. -/
def fields {α : Type} (field : α → Entry → Except Problem α) (initial : α)
    (entries : List Entry) : Except Problem α :=
  entries.foldlM field initial

end VipHost.Toml
