import VipHost.Proofs.Assignments
import VipHost.Proofs.Numerals

/-!
# Texts of key lines

A document of lines that each give a value to a key (`KeyLine`), with either line end and with or
without one after the last line (`MadeOf`).  Nothing is known of a value but that it is one when
nothing comes after it (`IsValue`).

The reader takes such a text line by line, and what it makes of a line depends on that line alone,
up to the place where it stands (`KeyLine.Gives`).  So the entries of the document are those of its
lines (`document?_madeOf`), unless a key comes twice; then the text is refused.
-/

namespace VipHost.Toml

/-- A line that gives a value to a key without quotes. -/
structure KeyLine where
  /-- The key. -/
  key : String
  /-- The value as it is written. -/
  value : List Char
  /-- The key needs no quotes. -/
  bare : isBareKey key = true

/-- The line as it is written, without its end. -/
def KeyLine.text (l : KeyLine) : List Char := assigned l.key l.value

/-- A text consists of some lines.  The last may do without a line end. -/
inductive MadeOf : List KeyLine → List Char → Prop where
  | nil : MadeOf [] []
  | last (l : KeyLine) : MadeOf [l] l.text
  | line {l : KeyLine} {lines : List KeyLine} {w s : List Char} (ends : NewLine w)
      (more : MadeOf lines s) : MadeOf (l :: lines) (l.text ++ (w ++ s))

/-- A text is a value of any form. -/
def IsValue (s : List Char) : Prop := ∃ node, value? nestingLimit s = some (node, [])

instance (s : List Char) : Decidable (IsValue s) :=
  decidable_of_iff ((value? nestingLimit s).map (·.2) = some []) (by
    rw [IsValue, Option.map_eq_some_iff, Prod.exists]
    exact exists_congr fun node => exists_eq_right)

/-- An entry is what a line gives: its key and its value, as that is read where the line stands. -/
def KeyLine.Gives (l : KeyLine) (e : Entry) : Prop :=
  e.1.name = l.key ∧ ∃ rest, (rest = [] ∨ Follows rest) ∧
    value? nestingLimit (l.value ++ rest) = some (e.2, rest)

namespace KeyLine.Gives

variable {l : KeyLine} {e : Entry} (gives : l.Gives e)
include gives

theorem scalar {v : Scalar} (written : v.WrittenAs l.value) : ∃ span, e.2 = .scalar span v := by
  obtain ⟨_, rest, nothing | follows, read⟩ := gives
  · rw [nothing, List.append_nil, written.value?, Option.some.injEq, Prod.mk.injEq] at read
    exact ⟨_, read.1.symm⟩
  · have moved := stable_value? nestingLimit (written.value? _) follows
    rw [read, Option.some.injEq, Prod.mk.injEq] at moved
    exact ⟨_, moved.1⟩

theorem isInteger {n : Nat} (small : n ≤ largest) (same : l.value = numeral n) :
    IsInteger n e.2 :=
  gives.scalar (same ▸ writtenAs_numeral small)

theorem isList {ns : List Nat} (small : ∀ n ∈ ns, n ≤ largest) (same : l.value = bracketed ns) :
    IsList ns e.2 := by
  obtain ⟨_, rest, _, read⟩ := gives
  obtain ⟨node, list, read'⟩ := value?_bracketed small (nestingLimit - 1) rest
  rw [← same] at read'
  have here := read.symm.trans read'
  rw [Option.some.injEq, Prod.mk.injEq] at here
  exact here.1 ▸ list

end KeyLine.Gives

theorem IsValue.skipBlanks {s : List Char} (isValue : IsValue s) (e : List Char) :
    skipBlanks (s ++ e) = s ++ e := by
  obtain ⟨node, read⟩ := isValue
  cases s with
  | nil =>
    rw [value?_leaf (by simp) (by simp)] at read
    cases read
  | cons c t =>
    have solid : isBlank c = false := by
      by_contra blank
      rw [Bool.not_eq_false] at blank
      have ends : endsValue c = true := by simp [endsValue, blank]
      rw [value?_eq_none ends] at read
      cases read
    rw [List.cons_append, Toml.skipBlanks, List.dropWhile_cons_of_neg (by simp [solid])]

/-- A value is read as before in front of a line end. -/
theorem NewLine.follows {w : List Char} (ends : NewLine w) (s : List Char) : Follows (w ++ s) := by
  cases ends with
  | feed => exact .of_ne_blank rfl (by decide) s
  | carriageReturn => exact .of_ne_blank rfl (by decide) _

section

variable {l : KeyLine} (isValue : IsValue l.value)
include isValue

/-- A line with its end. -/
theorem lineStep_line {w : List Char} (ends : NewLine w) (s : List Char) :
    ∃ e, l.Gives e ∧ lineStep (l.text ++ (w ++ s)) = some (.more (some (pairOf e)) s) := by
  obtain ⟨node, read⟩ := isValue
  have read' := stable_value? nestingLimit read (ends.follows s)
  have starts := IsValue.skipBlanks ⟨node, read⟩ (w ++ s)
  have left : lineEnd? (skipBlanks ([] ++ (w ++ s))) = some s := by cases ends <;> rfl
  obtain ⟨key, name, step⟩ := lineStep_assigned l.bare _ starts read' left
  refine ⟨(key, node.shift (w ++ s).length), ⟨name, w ++ s, .inr (ends.follows s), read'⟩, ?_⟩
  rw [KeyLine.text, assigned, List.append_assoc]
  exact step

/-- The last line without a line end. -/
theorem lineStep_last :
    ∃ e, l.Gives e ∧ lineStep l.text = some (.more (some (pairOf e)) []) := by
  obtain ⟨node, read⟩ := isValue
  have starts := IsValue.skipBlanks ⟨node, read⟩ []
  rw [List.append_nil] at starts
  have left : lineEnd? (skipBlanks []) = some [] := rfl
  obtain ⟨key, name, step⟩ := lineStep_assigned l.bare _ starts read left
  exact ⟨(key, node), ⟨name, [], .inl rfl, by rwa [List.append_nil]⟩, step⟩

end

/-! ## Documents -/

/-- Lines that all end in the same way. -/
theorem MadeOf.of_lines {lines : List KeyLine} {s : List Char}
    (text : s = lines.flatMap fun l => l.text ++ ['\n']) : MadeOf lines s := by
  subst text
  induction lines with
  | nil => exact .nil
  | cons l lines ih =>
    rw [List.flatMap_cons, List.append_assoc]
    exact .line .feed ih

theorem KeyLine.length_text_pos (l : KeyLine) : 0 < l.text.length := by
  simp [KeyLine.text, assigned]

theorem collect_madeOf {lines : List KeyLine} {s : List Char} (made : MadeOf lines s)
    (valid : ∀ l ∈ lines, IsValue l.value) :
    ∃ entries, lines.Forall₂ KeyLine.Gives entries ∧
      collect lineStep s = some (entries.map (some ∘ pairOf), []) := by
  induction made with
  | nil => exact ⟨[], .nil, collect_of_last rfl⟩
  | last l =>
    obtain ⟨e, gives, step⟩ := lineStep_last (valid l (List.mem_cons_self ..))
    refine ⟨[e], .cons gives .nil, (collect_of_more step l.length_text_pos).trans ?_⟩
    have nothing : collect lineStep [] = some ([], []) := collect_of_last rfl
    rw [nothing]
    rfl
  | @line l lines w s ends more ih =>
    obtain ⟨entries, give, read⟩ := ih fun l' inside => valid l' (List.mem_cons_of_mem l inside)
    obtain ⟨e, gives, step⟩ := lineStep_line (valid l (List.mem_cons_self ..)) ends s
    refine ⟨e :: entries, .cons gives give, (collect_of_more step ?_).trans ?_⟩
    · have := l.length_text_pos
      simp only [List.length_append]
      omega
    · rw [read]
      rfl

theorem MadeOf.ne_mark {lines : List KeyLine} {s : List Char} (made : MadeOf lines s)
    (rest : List Char) : s ≠ '\ufeff' :: rest := by
  cases made with
  | nil => exact List.cons_ne_nil _ _ |>.symm
  | last l => exact assigned_ne_cons l.bare _ rfl rest
  | @line l _ w s ends more =>
    rw [KeyLine.text, assigned, List.append_assoc]
    exact assigned_ne_cons l.bare (l.value ++ (w ++ s)) rfl rest

theorem exists_gives {lines : List KeyLine} {entries : List Entry}
    (give : lines.Forall₂ KeyLine.Gives entries) {l : KeyLine} (inside : l ∈ lines) :
    ∃ e ∈ entries, l.Gives e := by
  induction give with
  | nil => cases inside
  | @cons l' e lines entries gives _ ih =>
    obtain rfl | inside := List.mem_cons.mp inside
    · exact ⟨e, List.mem_cons_self .., gives⟩
    · obtain ⟨e', later, gives⟩ := ih inside
      exact ⟨e', List.mem_cons_of_mem e later, gives⟩

theorem names_of_gives {lines : List KeyLine} {entries : List Entry}
    (give : lines.Forall₂ KeyLine.Gives entries) :
    entries.map (·.1.name) = lines.map (·.key) := by
  induction give with
  | nil => rfl
  | cons gives _ ih => rw [List.map_cons, List.map_cons, gives.1, ih]

/-- A text of lines with valid values is a document with an entry for each line, unless a key comes
twice. -/
theorem document?_madeOf {lines : List KeyLine} {s : String} (made : MadeOf lines s.toList)
    (valid : ∀ l ∈ lines, IsValue l.value) :
    ∃ entries, lines.Forall₂ KeyLine.Gives entries ∧
      document? s = if (lines.map (·.key)).Nodup then some entries else none := by
  obtain ⟨entries, give, read⟩ := collect_madeOf made valid
  refine ⟨entries, give, ?_⟩
  rw [document?_of_lines? (lines?_of_collect made.ne_mark read), names_of_gives give]

end VipHost.Toml
