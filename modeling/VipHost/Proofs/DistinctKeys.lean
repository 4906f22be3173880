import VipHost.Proofs.Assignments

/-!
# No key twice

The entries of a document have different keys (`document?_distinct`).  An entry is added only
where its key is not found, other changes keep the keys as they are or take one out, and what
happens inside the table of an entry does not show in its key.

So the entries of a document can be taken one after the other, and no later one takes back what
an earlier one said.
-/

namespace VipHost.Toml

/-- No two entries have the same key. -/
def Distinct (entries : List Entry) : Prop := (entries.map (·.1.name)).Nodup

theorem distinct_cons {e : Entry} {entries : List Entry} :
    Distinct (e :: entries) ↔ (∀ other ∈ entries, other.1.name ≠ e.1.name) ∧ Distinct entries := by
  simp [Distinct]

/-! ## Changes of the entries -/

theorem map_name_replace (entries : List Entry) (name : String) (node : Node) :
    (replace entries name node).map (·.1.name) = entries.map (·.1.name) := by
  rw [replace, List.map_map]
  apply List.map_congr_left
  intro e _
  simp only [Function.comp]
  split <;> rfl

namespace Distinct

variable {entries : List Entry} (distinct : Distinct entries)
include distinct

theorem replace (name : String) (node : Node) : Distinct (replace entries name node) := by
  rw [Distinct, map_name_replace]
  exact distinct

theorem erase (name : String) : Distinct (erase entries name) :=
  distinct.sublist (List.filter_sublist.map _)

theorem append {key : Key} (new : find? entries key.name = none) (node : Node) :
    Distinct (entries ++ [(key, node)]) := by
  rw [Distinct, List.map_append, List.nodup_append]
  refine ⟨distinct, List.nodup_singleton _, ?_⟩
  rintro old inside name same rfl
  rw [List.mem_singleton.mp same] at inside
  exact find?_eq_none_iff.mp new inside

/-- A value behind a dotted key is a new entry, or goes into the table of an old one. -/
theorem insertDotted {path : List Key} {key : Key} {node : Node} {entries' : List Entry}
    (added : insertDotted path key node entries = some entries') : Distinct entries' := by
  cases path with
  | nil =>
    simp only [Toml.insertDotted] at added
    split at added
    next => cases added
    next new =>
      cases added
      exact distinct.append new node
  | cons first path =>
    simp only [Toml.insertDotted] at added
    split at added
    next new =>
      cases added
      exact distinct.append new _
    next =>
      split at added
      next => cases added
      next =>
        obtain ⟨inner, _, rfl⟩ := Option.map_eq_some_iff.mp added
        exact distinct.replace first.name _
    next =>
      split at added
      next => cases added
      next =>
        obtain ⟨inner, _, rfl⟩ := Option.map_eq_some_iff.mp added
        exact distinct.replace first.name _
    next => cases added

/-- A header changes the entries at the end of its path.  Only if the path is empty are these the
entries themselves. -/
theorem enter {change : List Entry → Option (List Entry)}
    (keeps : ∀ {before after}, Distinct before → change before = some after → Distinct after)
    {path : List Key} {entries' : List Entry}
    (changed : enter change path entries = some entries') : Distinct entries' := by
  cases path with
  | nil => exact keeps distinct changed
  | cons first path =>
    simp only [Toml.enter] at changed
    split at changed
    next new =>
      obtain ⟨inner, _, rfl⟩ := Option.map_eq_some_iff.mp changed
      exact distinct.append new _
    next =>
      split at changed
      next => cases changed
      next =>
        obtain ⟨inner, _, rfl⟩ := Option.map_eq_some_iff.mp changed
        exact distinct.replace first.name _
    next =>
      obtain ⟨inner, _, rfl⟩ := Option.map_eq_some_iff.mp changed
      exact distinct.replace first.name _
    next => cases changed

theorem place {sec : Section} {entries' : List Entry}
    (placed : Draft.place sec entries = some entries') : Distinct entries' := by
  unfold Draft.place at placed
  dsimp only at placed
  split at placed
  next =>
    split at placed
    next =>
      cases placed
      exact distinct.replace sec.key.name _
    next => cases placed
  next =>
    split at placed
    next => cases placed
    next new =>
      cases placed
      exact distinct.append new _

theorem claim {key : Key} {entries' : List Entry}
    (claimed : Draft.claim key entries = some entries') : Distinct entries' := by
  unfold Draft.claim at claimed
  split at claimed
  next =>
    cases claimed
    exact distinct
  next =>
    cases claimed
    exact distinct.erase key.name
  next => cases claimed

theorem claimNext {key : Key} {entries' : List Entry}
    (claimed : Draft.claimNext key entries = some entries') : Distinct entries' := by
  unfold Draft.claimNext at claimed
  split at claimed
  next new =>
    cases claimed
    exact distinct.append new _
  next =>
    cases claimed
    exact distinct
  next => cases claimed

end Distinct

/-! ## Line by line -/

namespace Draft

variable {d d' : Draft} (distinct : Distinct d.root)
include distinct

theorem close_distinct {entries : List Entry} (closed : d.close = some entries) :
    Distinct entries := by
  unfold close at closed
  split at closed
  next =>
    cases closed
    exact distinct
  next sec _ => exact distinct.enter (fun distinct => distinct.place) closed

theorem add_distinct {line : Line} (added : d.add line = some d') : Distinct d'.root := by
  cases line with
  | pair path key node =>
    simp only [add] at added
    split at added
    next =>
      obtain ⟨root, inserted, rfl⟩ := Option.map_eq_some_iff.mp added
      exact distinct.insertDotted inserted
    next =>
      -- the pair belongs to the section, and the root stays as it is
      obtain ⟨entries, _, rfl⟩ := Option.map_eq_some_iff.mp added
      exact distinct
  | table path key span =>
    simp only [add, Option.bind_eq_bind, Option.bind_eq_some_iff] at added
    obtain ⟨root, closed, cleared, claimed, new⟩ := added
    cases new
    exact (close_distinct distinct closed).enter (fun distinct => distinct.claim) claimed
  | nextTable path key span =>
    simp only [add, Option.bind_eq_bind, Option.bind_eq_some_iff] at added
    obtain ⟨root, closed, cleared, claimed, new⟩ := added
    cases new
    exact (close_distinct distinct closed).enter (fun distinct => distinct.claimNext) claimed

theorem foldlM_add_distinct {lines : List Line} (added : lines.foldlM add d = some d') :
    Distinct d'.root := by
  induction lines generalizing d with
  | nil =>
    cases added
    exact distinct
  | cons line lines ih =>
    rw [List.foldlM_cons, Option.bind_eq_bind, Option.bind_eq_some_iff] at added
    obtain ⟨next, first, left⟩ := added
    exact ih (add_distinct distinct first) left

end Draft

/-- The entries of a document have different keys. -/
theorem document?_distinct {s : String} {entries : List Entry}
    (valid : document? s = some entries) : Distinct entries := by
  simp only [document?, Option.bind_eq_bind, Option.bind_eq_some_iff] at valid
  obtain ⟨lines, _, draft, added, closed⟩ := valid
  have empty : Distinct ({} : Draft).root := List.nodup_nil
  exact Draft.close_distinct (Draft.foldlM_add_distinct empty added) closed

end VipHost.Toml
