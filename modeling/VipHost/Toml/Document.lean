import VipHost.Toml.Reader

/-!
# From lines to a document

The lines of a text are taken in order.  A *section* is the table that the
latest header began; until the first header it is the document itself.  When the
next header comes, or the text ends, the section is put in its place.

A table that so far was only implied by a header inside it may still get a
header of its own, and then stands where that header stands.
-/

namespace VipHost.Toml

/-- The table being read. -/
structure Section where
  /-- The tables its header leads through. -/
  path : List Key
  /-- The last part of its header. -/
  key : Key
  /-- The header and the entries read so far. -/
  span : Span
  /-- Whether it is one of several with a common header. -/
  repeated : Bool
  /-- Its entries. -/
  entries : List Entry

/-- What is known of a document. -/
structure Draft where
  /-- The entries of the document but for the section being read. -/
  root : List Entry := []
  /-- The section being read, if a header came already. -/
  current : Option Section := none

namespace Draft

/-- The span of tables with a common header. -/
def tablesSpan (latestFirst : List Node) : Option Span := do
  let first ← (← latestFirst.getLast?).span?
  let last ← (← latestFirst.head?).span?
  return ⟨first.before, last.after⟩

/-- The entries of a table with a section put in its place. -/
def place (sec : Section) (entries : List Entry) : Option (List Entry) :=
  let node : Node := .table (some sec.span) .header sec.entries
  if sec.repeated then
    match find? entries sec.key.name with
    | some (.tables _ earlier) =>
      let all := node :: earlier
      some (replace entries sec.key.name (.tables (tablesSpan all) all))
    | _ => none
  else
    match find? entries sec.key.name with
    | some _ => none
    | none => some (entries ++ [(sec.key, node)])

/-- The entries of the document with the section put in its place. -/
def close (d : Draft) : Option (List Entry) :=
  match d.current with
  | none => some d.root
  | some sec => enter (place sec) sec.path d.root

/-- Make room for a table: the entries it has already, by headers inside it, and
the entries of the table around it without it. -/
def claim (key : Key) (entries : List Entry) : Option (List Entry) :=
  match find? entries key.name with
  | none => some entries
  | some (.table _ .implied _) => some (erase entries key.name)
  | some _ => none

/-- Make room for one more table with a common header. -/
def claimNext (key : Key) (entries : List Entry) : Option (List Entry) :=
  match find? entries key.name with
  | none => some (entries ++ [(key, .tables none [])])
  | some (.tables _ _) => some entries
  | some _ => none

/-- The entries of the table a path leads to. -/
def entriesAt : List Key → List Entry → List Entry
  | [], entries => entries
  | first :: path, entries =>
    match find? entries first.name with
    | some (.table _ _ inner) => entriesAt path inner
    | some (.tables _ (.table _ _ inner :: _)) => entriesAt path inner
    | _ => []

/-- The entries that a table without a header has already. -/
def impliedEntries (path : List Key) (key : Key) (root : List Entry) : List Entry :=
  match find? (entriesAt path root) key.name with
  | some (.table _ .implied inner) => inner
  | _ => []

/-- A document with one more line. -/
def add (d : Draft) (line : Line) : Option Draft :=
  match line with
  | .pair path key node =>
    match d.current with
    | none => (insertDotted path key node d.root).map fun root => { d with root }
    | some sec =>
      (insertDotted path key node sec.entries).map fun entries =>
        let after := (node.span?.map (·.after)).getD sec.span.after
        { d with current := some { sec with entries, span := ⟨sec.span.before, after⟩ } }
  | .table path key span => do
    let root ← d.close
    let cleared ← enter (claim key) path root
    return ⟨cleared, some ⟨path, key, span, false, impliedEntries path key root⟩⟩
  | .nextTable path key span => do
    let root ← d.close
    let cleared ← enter (claimNext key) path root
    return ⟨cleared, some ⟨path, key, span, true, []⟩⟩

end Draft

/-- The entries of the document a text stands for. -/
def document? (s : String) : Option (List Entry) := do
  let lines ← lines? s.toList
  let draft ← lines.foldlM Draft.add {}
  draft.close

end VipHost.Toml
