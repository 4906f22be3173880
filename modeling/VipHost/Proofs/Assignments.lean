import Mathlib.Data.List.Nodup
import VipHost.Proofs.ValueEnds
import VipHost.Toml.Document

/-!
# Documents of assignments

The simplest lines of a document have a key without quotes, an equals sign and a value (`assigned`).
If the value is read up to the end of the line, the line is read as an assignment
(`lineStep_assigned`).  The value is not looked into, so it may be of any form.

A document of such lines has an entry for each, in the order of the lines, unless a key comes twice;
then there is no document (`document?_of_lines?`).
-/

namespace VipHost.Toml

/-- A key that needs no quotes. -/
def isBareKey (name : String) : Bool := !name.toList.isEmpty && name.toList.all isBareChar

/-! ## Reading a line -/

/-- A key without quotes and an equals sign, in front of a value and more text. -/
def assigned (name : String) (tail : List Char) : List Char :=
  name.toList ++ ' ' :: '=' :: ' ' :: tail

section

variable {name : String} (bare : isBareKey name = true) (tail : List Char)
include bare

theorem name_bare : name.toList ≠ [] ∧ ∀ c ∈ name.toList, isBareChar c = true := by
  simpa [isBareKey] using bare

theorem exists_assigned_eq_cons : ∃ c t, assigned name tail = c :: t ∧ isBareChar c = true := by
  obtain ⟨nonempty, all⟩ := name_bare bare
  obtain ⟨c, more, front⟩ := List.exists_cons_of_ne_nil nonempty
  refine ⟨c, more ++ ' ' :: '=' :: ' ' :: tail, ?_, all c (front ▸ List.mem_cons_self ..)⟩
  rw [assigned, front, List.cons_append]

/-- A line begins with its key, and so with none of the signs that mean something else. -/
theorem assigned_ne_cons {c : Char} (other : isBareChar c = false) (t : List Char) :
    assigned name tail ≠ c :: t := by
  obtain ⟨d, t', front, first⟩ := exists_assigned_eq_cons bare tail
  rw [front]
  intro same
  exact ne_of_isBareChar first other (List.cons.inj same).1

theorem skipBlanks_assigned : skipBlanks (assigned name tail) = assigned name tail := by
  obtain ⟨c, t, front, first⟩ := exists_assigned_eq_cons bare tail
  have solid : isBlank c = false := by
    simp [isBlank, ne_of_isBareChar first (d := ' ') rfl, ne_of_isBareChar first (d := '\t') rfl]
  rw [front, skipBlanks, List.dropWhile_cons_of_neg (by simp [solid])]

/-- The key is read up to the blank. -/
theorem keyPart?_assigned :
    ∃ span, keyPart? (assigned name tail) = some (⟨name, span⟩, ' ' :: '=' :: ' ' :: tail) := by
  obtain ⟨_, all⟩ := name_bare bare
  obtain ⟨c, t, front, first⟩ := exists_assigned_eq_cons bare tail
  have run : (assigned name tail).takeWhile isBareChar = name.toList := by
    rw [assigned, List.takeWhile_append_of_pos all, List.takeWhile_cons_of_neg (by decide),
      List.append_nil]
  have left : (assigned name tail).dropWhile isBareChar = ' ' :: '=' :: ' ' :: tail := by
    rw [assigned, List.dropWhile_append_of_pos all, List.dropWhile_cons_of_neg (by decide)]
  rw [front] at run left ⊢
  rw [keyPart?_eq, keyName?_bare first, run, left, Option.map_some]
  dsimp only
  rw [String.ofList_toList]
  exact ⟨_, rfl⟩

theorem key?_assigned :
    ∃ key, key.name = name ∧ key? (assigned name tail) = some (([], key), '=' :: ' ' :: tail) := by
  obtain ⟨span, read⟩ := keyPart?_assigned bare tail
  rw [← skipBlanks_assigned bare tail] at read
  have last := keyStep_of_last read (by simp [skipBlanks, isBlank])
  refine ⟨⟨name, span⟩, rfl, ?_⟩
  rw [key?, collect_of_last last]
  rfl

/-- The value is read after its blank. -/
theorem pair?_assigned {node : Node} {rest : List Char} (starts : skipBlanks tail = tail)
    (read : value? nestingLimit tail = some (node, rest)) :
    ∃ key, key.name = name ∧
      pair? (value? nestingLimit) (assigned name tail) =
        some (([], key, node), skipBlanks rest) := by
  obtain ⟨key, same, readKey⟩ := key?_assigned bare tail
  refine ⟨key, same, ?_⟩
  have skip : skipBlanks (' ' :: tail) = tail := starts
  have sign : char? '=' ('=' :: ' ' :: tail) = some (' ' :: tail) := rfl
  simp only [pair?, readKey, Option.bind_eq_bind, Option.bind_some, sign, skip, read]
  rfl

theorem lineStep_assigned {node : Node} {rest left : List Char} (starts : skipBlanks tail = tail)
    (read : value? nestingLimit tail = some (node, rest))
    (ends : lineEnd? (skipBlanks rest) = some left) :
    ∃ key, key.name = name ∧
      lineStep (assigned name tail) = some (.more (some (.pair [] key node)) left) := by
  obtain ⟨key, same, pair⟩ := pair?_assigned bare tail starts read
  refine ⟨key, same, ?_⟩
  have statement : statement? (assigned name tail) =
      some (.pair [] key node, skipBlanks rest) := by
    unfold statement?
    split
    next bracket => exact absurd bracket (assigned_ne_cons bare tail rfl _)
    next => rw [pair]; rfl
  unfold lineStep
  rw [skipBlanks_assigned bare tail]
  split
  next empty =>
    obtain ⟨c, t, front, _⟩ := exists_assigned_eq_cons bare tail
    cases front.symm.trans empty
  next other => exact absurd other (assigned_ne_cons bare tail rfl _)
  next other => exact absurd other (assigned_ne_cons bare tail rfl _)
  next other => exact absurd other (assigned_ne_cons bare tail rfl _)
  next =>
    simp only [statement, Option.bind_eq_bind, Option.bind_some, ends]
    rfl

end

/-! ## Reading a document -/

/-- The line of an entry. -/
def pairOf (e : Entry) : Line := .pair [] e.1 e.2

/-- Lines that all give a value to a key. -/
theorem lines?_of_collect {s : List Char} {entries : List Entry}
    (noMark : ∀ rest, s ≠ '\ufeff' :: rest)
    (read : collect lineStep s = some (entries.map (some ∘ pairOf), [])) :
    lines? s = some (entries.map pairOf) := by
  have said : (entries.map (some ∘ pairOf)).filterMap id = entries.map pairOf := by
    rw [List.filterMap_map, Function.id_comp, List.filterMap_eq_map]
  unfold lines?
  split
  next => exact absurd rfl (noMark _)
  next =>
    dsimp only
    rw [read, Option.map_some, said]

theorem find?_eq_none_iff {entries : List Entry} {name : String} :
    find? entries name = none ↔ name ∉ entries.map (·.1.name) := by
  simp [find?, List.find?_eq_none]

/-- A line is added, if its key is new. -/
theorem add_pairOf (root : List Entry) (e : Entry) :
    Draft.add { root } (pairOf e) =
      if e.1.name ∈ root.map (·.1.name) then none else some { root := root ++ [e] } := by
  simp only [Draft.add, pairOf, insertDotted]
  split
  next old =>
    rw [if_pos]
    · rfl
    · by_contra new
      rw [find?_eq_none_iff.mpr new] at old
      cases old
  next new =>
    rw [if_neg (find?_eq_none_iff.mp new)]
    rfl

/-- Lines are added as they come, as long as their keys are new. -/
theorem foldlM_add (root entries : List Entry) (start : (root.map (·.1.name)).Nodup) :
    (entries.map pairOf).foldlM Draft.add { root } =
      if ((root ++ entries).map (·.1.name)).Nodup then some { root := root ++ entries }
      else none := by
  induction entries generalizing root with
  | nil => simp [start]
  | cons e entries ih =>
    rw [List.map_cons, List.foldlM_cons, add_pairOf]
    split
    next old =>
      rw [if_neg]
      · rfl
      · intro distinct
        rw [List.map_append, List.nodup_append] at distinct
        exact distinct.2.2 _ old _ (List.mem_cons_self ..) rfl
    next new =>
      rw [List.append_cons root e entries]
      refine ih _ ?_
      rw [List.map_append, List.nodup_append]
      refine ⟨start, List.nodup_singleton _, ?_⟩
      rintro old inside name same rfl
      rw [List.mem_singleton.mp same] at inside
      exact new inside

/-- The document of lines that all give a value to a key.  It is refused if a key comes twice. -/
theorem document?_of_lines? {s : String} {entries : List Entry}
    (read : lines? s.toList = some (entries.map pairOf)) :
    document? s = if (entries.map (·.1.name)).Nodup then some entries else none := by
  have added := foldlM_add [] entries List.nodup_nil
  rw [List.nil_append] at added
  rw [document?, read, Option.bind_eq_bind, Option.bind_some, added]
  split <;> rfl

end VipHost.Toml
