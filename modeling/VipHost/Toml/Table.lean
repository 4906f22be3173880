import VipHost.Toml.Node

/-!
# Building tables

Entries are added to a table one by one.  A dotted key opens tables on the way
to its last part.  Such a table stays open to further dotted keys, but a table
with braces or a header of its own is closed to them, and a key is given a value
once.  A header opens tables on its way too (`enter`), and leads into the latest
of tables that share a header.
-/

namespace VipHost.Toml

/-- The table of one entry behind a dotted key. -/
def chain : List Key → Key → Node → Entry
  | [], key, node => (key, node)
  | first :: path, key, node => (first, .table none .dotted [chain path key node])

/-- Whether dotted keys may lead on through a table with this origin. -/
def Origin.admitsDotted : Origin → Bool
  | .braces => false
  | .header => false
  | .implied => true
  | .dotted => true

/-- The entries with a value added behind a dotted key.  The table that gets the
value has to be one that a dotted key opened, unless the key has a single
part. -/
def insertDotted : List Key → Key → Node → List Entry → Option (List Entry)
  | [], key, node, entries =>
    match find? entries key.name with
    | some _ => none
    | none => some (entries ++ [(key, node)])
  | first :: path, key, node, entries =>
    match find? entries first.name with
    | none => some (entries ++ [(first, .table none .dotted [chain path key node])])
    | some (.table span origin inner) =>
      if !origin.admitsDotted || (path.isEmpty && origin ≠ .dotted) then none
      else
        (insertDotted path key node inner).map fun inner =>
          replace entries first.name (.table span origin inner)
    | some (.tables span (.table latestSpan origin inner :: earlier)) =>
      if path.isEmpty && origin ≠ .dotted then none
      else
        (insertDotted path key node inner).map fun inner =>
          replace entries first.name (.tables span (.table latestSpan origin inner :: earlier))
    | some _ => none

/-- Change the entries of the table that a path of a header leads to.  Tables
that are not there yet are opened. -/
def enter (change : List Entry → Option (List Entry)) :
    List Key → List Entry → Option (List Entry)
  | [], entries => change entries
  | first :: path, entries =>
    match find? entries first.name with
    | none =>
      (enter change path []).map fun inner => entries ++ [(first, .table none .implied inner)]
    | some (.table span origin inner) =>
      if origin = .braces then none
      else
        (enter change path inner).map fun inner =>
          replace entries first.name (.table span origin inner)
    | some (.tables span (.table latestSpan origin inner :: earlier)) =>
      (enter change path inner).map fun inner =>
        replace entries first.name (.tables span (.table latestSpan origin inner :: earlier))
    | some _ => none

end VipHost.Toml
