import VipHost.Proofs.TextEnds

/-!
# Where a value ends

A value is read alike whatever follows it (`stable_value?`): as the same value, with the same text
left before what was added.  Only the spans differ, which count the characters that are left, so
`Node.shift` moves them by as many as were added.

Inside brackets and braces all readers stop at a sign, so what comes after the value does not reach
them.  A reader that ends with blanks or line ends could take more of them at the end of the text;
but no value is read of them (`Splits`, `Solid`), so such a text is refused on its own.
-/

namespace VipHost.Toml

/-! ## Moved values -/

/-- A span with so many characters more after it. -/
def Span.shift (k : Nat) (span : Span) : Span := ⟨span.before + k, span.after + k⟩

/-- A key with so many characters more after it. -/
def Key.shift (k : Nat) (key : Key) : Key := ⟨key.name, key.span.shift k⟩

mutual

/-- A value with so many characters more after it. -/
def Node.shift (k : Nat) : Node → Node
  | .scalar span v => .scalar (span.shift k) v
  | .array span items => .array (span.shift k) (shiftNodes k items)
  | .table span origin entries => .table (span.map (·.shift k)) origin (shiftEntries k entries)
  | .tables span latestFirst => .tables (span.map (·.shift k)) (shiftNodes k latestFirst)

/-- Values with so many characters more after them. -/
def shiftNodes (k : Nat) : List Node → List Node
  | [] => []
  | node :: nodes => node.shift k :: shiftNodes k nodes

/-- Entries with so many characters more after them. -/
def shiftEntries (k : Nat) : List Entry → List Entry
  | [] => []
  | (key, node) :: entries => (key.shift k, node.shift k) :: shiftEntries k entries

end

section

variable (k : Nat)

theorem Key.shift_name (key : Key) : (key.shift k).name = key.name := rfl

theorem shiftNodes_eq_map (nodes : List Node) : shiftNodes k nodes = nodes.map (Node.shift k) := by
  induction nodes with
  | nil => rfl
  | cons node nodes ih => rw [shiftNodes, ih, List.map_cons]

theorem shiftEntries_append (entries more : List Entry) :
    shiftEntries k (entries ++ more) = shiftEntries k entries ++ shiftEntries k more := by
  induction entries with
  | nil => rfl
  | cons e entries ih => rw [List.cons_append, shiftEntries, shiftEntries, ih, List.cons_append]

theorem find?_shiftEntries (entries : List Entry) (name : String) :
    find? (shiftEntries k entries) name = (find? entries name).map (Node.shift k) := by
  induction entries with
  | nil => rfl
  | cons e entries ih =>
    obtain ⟨key, node⟩ := e
    rw [shiftEntries]
    by_cases here : key.name = name
    · simp [find?, Key.shift, here]
    · simpa [find?, Key.shift, here] using ih

theorem replace_shiftEntries (entries : List Entry) (name : String) (node : Node) :
    replace (shiftEntries k entries) name (node.shift k) =
      shiftEntries k (replace entries name node) := by
  induction entries with
  | nil => rfl
  | cons e entries ih =>
    obtain ⟨key, old⟩ := e
    simp only [shiftEntries, replace, List.map_cons] at ih ⊢
    rw [ih]
    by_cases here : key.name = name
    · simp [here, Key.shift]
    · simp [here, Key.shift]

theorem chain_shift (path : List Key) (key : Key) (node : Node) :
    chain (path.map (Key.shift k)) (key.shift k) (node.shift k) =
      ((chain path key node).1.shift k, (chain path key node).2.shift k) := by
  induction path with
  | nil => rfl
  | cons first path ih =>
    rw [List.map_cons, chain, chain, ih]
    simp [Node.shift, shiftEntries]

/-- A change of the table behind a key, if the key may be led through. -/
theorem changed_shift {closed : Prop} [Decidable closed] {table table' : List Entry → Node}
    {read : Option (List Entry)} {entries : List Entry} {name : String}
    (moved : ∀ inner, table' (shiftEntries k inner) = (table inner).shift k) :
    (if closed then none
      else (read.map (shiftEntries k)).map fun inner =>
        replace (shiftEntries k entries) name (table' inner)) =
      (if closed then none else read.map fun inner => replace entries name (table inner)).map
        (shiftEntries k) := by
  split
  · rfl
  · cases read with
    | none => rfl
    | some inner => simp only [Option.map_some, moved, replace_shiftEntries]

theorem insertDotted_shift (path : List Key) (key : Key) (node : Node) (entries : List Entry) :
    insertDotted (path.map (Key.shift k)) (key.shift k) (node.shift k) (shiftEntries k entries) =
      (insertDotted path key node entries).map (shiftEntries k) := by
  induction path generalizing entries with
  | nil =>
    simp only [List.map_nil, insertDotted, find?_shiftEntries, Key.shift_name]
    cases find? entries key.name with
    | some old => rfl
    | none => simp [shiftEntries_append, shiftEntries]
  | cons first path ih =>
    simp only [List.map_cons, insertDotted, find?_shiftEntries, Key.shift_name, chain_shift,
      List.isEmpty_map]
    cases find? entries first.name with
    | none => simp [shiftEntries_append, shiftEntries, Node.shift]
    | some old =>
      cases old with
      | scalar span v => rfl
      | array span items => rfl
      | table span origin inner =>
        simp only [Option.map_some, Node.shift, ih]
        exact changed_shift k fun inner => by rw [Node.shift]
      | tables span latestFirst =>
        cases latestFirst with
        | nil => rfl
        | cons latest earlier =>
          cases latest with
          | scalar _ _ => rfl
          | array _ _ => rfl
          | tables _ _ => rfl
          | table latestSpan origin inner =>
            simp only [Option.map_some, Node.shift, shiftNodes, ih]
            exact changed_shift k fun inner => by rw [Node.shift, shiftNodes, Node.shift]

/-- A key and its value with so many characters more after them. -/
def shiftPair (pair : List Key × Key × Node) : List Key × Key × Node :=
  (pair.1.map (Key.shift k), pair.2.1.shift k, pair.2.2.shift k)

/-- Steps that each move with a pair do so all together. -/
theorem foldlM_shift {step : List Entry → List Key × Key × Node → Option (List Entry)}
    (moved : ∀ entries pair,
      step (shiftEntries k entries) (shiftPair k pair) = (step entries pair).map (shiftEntries k))
    (pairs : List (List Key × Key × Node)) (entries : List Entry) :
    (pairs.map (shiftPair k)).foldlM step (shiftEntries k entries) =
      (pairs.foldlM step entries).map (shiftEntries k) := by
  induction pairs generalizing entries with
  | nil => rfl
  | cons pair pairs ih =>
    rw [List.map_cons, List.foldlM_cons, List.foldlM_cons, moved]
    cases step entries pair with
    | none => rfl
    | some entries => exact ih entries

theorem tableOfPairs_shift (pairs : List (List Key × Key × Node)) :
    tableOfPairs (pairs.map (shiftPair k)) = (tableOfPairs pairs).map (shiftEntries k) := by
  refine foldlM_shift k (fun entries pair => ?_) pairs []
  obtain ⟨path, key, node⟩ := pair
  exact insertDotted_shift k path key node entries

end

/-! ## Gaps -/

theorem head?_append {s : List Char} {c : Char} (head : s.head? = some c) (e : List Char) :
    (s ++ e).head? = some c := by
  rw [List.head?_append, head]
  rfl

/-- What is no line end is none with more text after it. -/
theorem no_carriageReturn_append {c : Char} {s e : List Char} (whole : ¬ Splits (c :: s))
    (noEnd : ¬ (c = '\r' && s.head? = some '\n') = true) :
    ¬ (c = '\r' && (s ++ e).head? = some '\n') = true := by
  cases s with
  | nil =>
    have other : c ≠ '\r' := fun same => whole (.inr (by rw [same]))
    simp [other]
  | cons d s => exact noEnd

theorem carriageReturn_append {c : Char} {s e : List Char}
    (ends : (c = '\r' && s.head? = some '\n') = true) :
    (c = '\r' && (s ++ e).head? = some '\n') = true := by
  simp only [Bool.and_eq_true, decide_eq_true_eq] at ends ⊢
  exact ⟨ends.1, head?_append ends.2 e⟩

theorem skipGap_append {inside : Bool} {s e : List Char} (whole : ¬ Splits (skipGap inside s)) :
    skipGap inside (s ++ e) = skipGap inside s ++ e := by
  fun_induction skipGap inside s with
  | case1 => exact absurd (.inl rfl) whole
  | case2 c rest plain ih => rw [List.cons_append, skipGap, if_pos plain, ih whole]
  | case3 rest solid ih => rw [List.cons_append, skipGap, if_neg solid, if_pos rfl, ih whole]
  | case4 c rest solid noFeed ends ih =>
    rw [List.cons_append, skipGap, if_neg solid, if_neg noFeed, if_pos (carriageReturn_append ends),
      ih whole]
  | case5 c rest solid noFeed noEnd =>
    rw [List.cons_append, skipGap, if_neg solid, if_neg noFeed,
      if_neg (no_carriageReturn_append whole noEnd)]
  | case6 rest ih => rw [List.cons_append, skipGap, if_pos rfl, ih whole]
  | case7 c rest noComment blank ih =>
    rw [List.cons_append, skipGap, if_neg noComment, if_pos blank, ih whole]
  | case8 c rest noComment solid ends ih =>
    rw [List.cons_append, skipGap, if_neg noComment, if_neg solid,
      if_pos (carriageReturn_append ends), ih whole]
  | case9 c rest noComment solid noEnd =>
    rw [List.cons_append, skipGap, if_neg noComment, if_neg solid,
      if_neg (no_carriageReturn_append whole noEnd)]

theorem skipBlanks_append {s e : List Char} (something : skipBlanks s ≠ []) :
    skipBlanks (s ++ e) = skipBlanks s ++ e :=
  dropWhile_append_of_dropWhile_ne_nil something

/-! ## Keys -/

theorem ne_of_isBareChar {c d : Char} (bare : isBareChar c = true)
    (other : isBareChar d = false) : c ≠ d := by
  rintro rfl
  rw [bare] at other
  cases other

/-- The characters of a part of a key, and what is left after it. -/
def keyName? (s : List Char) : Option (List Char × List Char) :=
  match s with
  | '"' :: rest => basic? rest
  | '\'' :: rest => literal? rest
  | _ =>
    if (s.takeWhile isBareChar).isEmpty then none
    else some (s.takeWhile isBareChar, s.dropWhile isBareChar)

theorem keyPart?_eq (s : List Char) :
    keyPart? s = (keyName? s).map fun (name, rest) =>
      (⟨String.ofList name, ⟨s.length, rest.length⟩⟩, rest) := by
  simp only [keyName?, ← drop_length_takeWhile]
  rfl

theorem keyName?_bare {c : Char} (bare : isBareChar c = true) (s : List Char) :
    keyName? (c :: s) =
      some ((c :: s).takeWhile isBareChar, (c :: s).dropWhile isBareChar) := by
  unfold keyName?
  split
  next same => exact absurd (List.cons.inj same).1 (ne_of_isBareChar bare rfl)
  next same => exact absurd (List.cons.inj same).1 (ne_of_isBareChar bare rfl)
  next => exact if_neg (by simp [bare])

section

variable {s e left : List Char}

theorem keyName?_append {name : List Char} (read : keyName? s = some (name, left))
    (more : left ≠ []) : keyName? (s ++ e) = some (name, left ++ e) := by
  unfold keyName? at read
  split at read
  next => exact basic?_append read
  next => exact literal?_append read
  next =>
    cases s with
    | nil => cases read
    | cons c s =>
      cases first : isBareChar c with
      | false => simp [first] at read
      | true =>
        rw [if_neg (by simp [first])] at read
        cases read
        rw [List.cons_append, keyName?_bare first, ← List.cons_append,
          takeWhile_append_of_dropWhile_ne_nil more, dropWhile_append_of_dropWhile_ne_nil more]

theorem keyPart?_append {key : Key} (read : keyPart? s = some (key, left)) (more : left ≠ []) :
    keyPart? (s ++ e) = some (key.shift e.length, left ++ e) := by
  rw [keyPart?_eq] at read ⊢
  obtain ⟨⟨name, left⟩, part, same⟩ := Option.map_eq_some_iff.mp read
  cases same
  rw [keyName?_append part more]
  simp [Key.shift, Span.shift]

/-- A round of a key takes a part, and what comes after it says whether it is the last. -/
theorem keyStep_cases {round : Round Key} (goes : keyStep s = some round) :
    ∃ key rest, keyPart? (skipBlanks s) = some (key, rest) ∧
      ((∃ left, skipBlanks rest = '.' :: left ∧ round = .more key left) ∨
        (∀ left, skipBlanks rest ≠ '.' :: left) ∧ round = .last [key] (skipBlanks rest)) := by
  obtain ⟨⟨key, rest⟩, part, rfl⟩ := Option.map_eq_some_iff.mp goes
  refine ⟨key, rest, part, ?_⟩
  dsimp only
  split
  next left dot => exact .inl ⟨left, dot, rfl⟩
  next noDot => exact .inr ⟨noDot, rfl⟩

theorem keyStep_of_dot {key : Key} {rest : List Char}
    (part : keyPart? (skipBlanks s) = some (key, rest)) (dot : skipBlanks rest = '.' :: left) :
    keyStep s = some (.more key left) := by
  simp only [keyStep, part, Option.map_some, dot]

theorem keyStep_of_last {key : Key} {rest : List Char}
    (part : keyPart? (skipBlanks s) = some (key, rest))
    (noDot : ∀ left, skipBlanks rest ≠ '.' :: left) :
    keyStep s = some (.last [key] (skipBlanks rest)) := by
  rw [keyStep, part, Option.map_some]
  dsimp only
  split
  next dot => exact absurd dot (noDot _)
  next => rfl

theorem keyPart?_skipBlanks_append {key : Key}
    (read : keyPart? (skipBlanks s) = some (key, left)) (more : skipBlanks left ≠ []) :
    keyPart? (skipBlanks (s ++ e)) = some (key.shift e.length, left ++ e) := by
  have something : skipBlanks s ≠ [] := by
    intro nothing
    rw [nothing] at read
    cases read
  rw [skipBlanks_append something]
  exact keyPart?_append read (by rintro rfl; exact more rfl)

theorem collect_keyStep_append {parts : List Key} (read : collect keyStep s = some (parts, left))
    (something : left ≠ []) :
    collect keyStep (s ++ e) = some (parts.map (Key.shift e.length), left ++ e) := by
  refine collect_append ?_ ?_ read
  · intro s parts ends
    obtain ⟨key, rest, part, ⟨_, _, same⟩ | ⟨noDot, same⟩⟩ := keyStep_cases ends
    · cases same
    · cases same
      rw [keyStep_of_last (keyPart?_skipBlanks_append part something), skipBlanks_append something]
      · rfl
      · rw [skipBlanks_append something]
        obtain ⟨c, t, front⟩ := List.exists_cons_of_ne_nil something
        rw [front] at noDot ⊢
        intro left same
        exact noDot t (by rw [(List.cons.inj same).1])
  · intro s key rest goes next
    obtain ⟨key, rest, part, ⟨left, dot, same⟩ | ⟨_, same⟩⟩ := keyStep_cases goes
    · cases same
      have more : skipBlanks rest ≠ [] := by simp [dot]
      exact keyStep_of_dot (keyPart?_skipBlanks_append part more)
        (by rw [skipBlanks_append more, dot]; rfl)
    · cases same

theorem key?_append {path : List Key} {key : Key} (read : key? s = some ((path, key), left))
    (something : left ≠ []) :
    key? (s ++ e) = some ((path.map (Key.shift e.length), key.shift e.length), left ++ e) := by
  unfold key? at read ⊢
  obtain ⟨⟨parts, rest⟩, rounds, read⟩ := Option.bind_eq_some_iff.mp read
  obtain ⟨last, final, read⟩ := Option.bind_eq_some_iff.mp read
  split at read
  next few =>
    cases read
    simp only [collect_keyStep_append rounds something, Option.bind_eq_bind, Option.bind_some,
      List.getLast?_map, final, Option.map_some, List.length_map, if_pos few, List.map_dropLast]
  next => cases read

theorem key?_eq_none (nothing : skipBlanks s = []) : key? s = none := by
  have failed : keyStep s = none := by
    rw [keyStep, nothing]
    rfl
  rw [key?, collect_of_none failed]
  rfl

theorem char?_append_of_some {c : Char} (read : char? c s = some left) :
    char? c (s ++ e) = some (left ++ e) := by
  unfold char? at read
  split at read
  next d rest =>
    split at read
    next same =>
      cases read
      exact if_pos same
    next => cases read
  next => cases read

end

/-! ## Values with values inside -/

/-- A reader of values does not take anything from what may follow a value, and reads the same
whatever that is. -/
def Stable (value : Reader Node) : Prop :=
  ∀ ⦃s e : List Char⦄ ⦃node : Node⦄ ⦃left : List Char⦄, value s = some (node, left) →
    Follows e → value (s ++ e) = some (node.shift e.length, left ++ e)

/-- A reader of values reads nothing where a value could be completed by a line end. -/
def Solid (value : Reader Node) : Prop := ∀ ⦃s⦄, value s ≠ none → ¬ Splits s

section

variable {value : Reader Node} {s rest left : List Char} {node : Node}
variable (noBracket : ∀ t, skipGap false s ≠ ']' :: t)
variable (read : value (skipGap false s) = some (node, rest))
include noBracket read

/-- An item with a comma after it. -/
theorem itemStep_of_comma (comma : skipGap false rest = ',' :: left) :
    itemStep value s = some (.more node left) := by
  unfold itemStep
  split
  next same => exact absurd same (noBracket _)
  next => simp only [read, comma]

/-- The last item. -/
theorem itemStep_of_bracket (bracket : skipGap false rest = ']' :: left) :
    itemStep value s = some (.last [node] left) := by
  unfold itemStep
  split
  next same => exact absurd same (noBracket _)
  next => simp only [read, bracket]

end

section

variable {value : Reader Node} (stable : Stable value) (solid : Solid value)
variable {s e left : List Char} (follows : Follows e)
include stable solid follows

theorem pair?_append {pair : List Key × Key × Node} (read : pair? value s = some (pair, left))
    (something : left ≠ []) :
    pair? value (s ++ e) = some (shiftPair e.length pair, left ++ e) := by
  unfold pair? at read ⊢
  obtain ⟨⟨⟨path, key⟩, afterKey⟩, readKey, read⟩ := Option.bind_eq_some_iff.mp read
  obtain ⟨afterSign, sign, read⟩ := Option.bind_eq_some_iff.mp read
  obtain ⟨⟨node, afterValue⟩, readValue, read⟩ := Option.bind_eq_some_iff.mp read
  cases read
  have moreKey : afterKey ≠ [] := by
    rintro rfl
    cases sign
  have moreSign : skipBlanks afterSign ≠ [] := by
    intro nothing
    exact solid (by simp [readValue]) (.inl nothing)
  simp only [key?_append readKey moreKey, Option.bind_eq_bind, Option.bind_some,
    char?_append_of_some sign, skipBlanks_append moreSign, stable readValue follows,
    skipBlanks_append something]
  rfl

/-- A pair of an inline table, with a comma after it or the brace. -/
theorem pairStep_append {round : Round (List Key × Key × Node)}
    (goes : pairStep value s = some round) :
    (∃ pair left, round = .more pair left ∧
      pairStep value (s ++ e) = some (.more (shiftPair e.length pair) (left ++ e))) ∨
      ∃ pair left, round = .last [pair] left ∧
        pairStep value (s ++ e) = some (.last [shiftPair e.length pair] (left ++ e)) := by
  unfold pairStep at goes
  split at goes
  next => cases goes
  next pair rest read =>
    split at goes
    next left =>
      cases goes
      refine .inl ⟨pair, left, rfl, ?_⟩
      rw [pairStep, pair?_append stable solid follows read (by simp)]
      rfl
    next left =>
      cases goes
      refine .inr ⟨pair, left, rfl, ?_⟩
      rw [pairStep, pair?_append stable solid follows read (by simp)]
      rfl
    next => cases goes

theorem pairs?_append {pairs : List (List Key × Key × Node)}
    (read : pairs? value s = some (pairs, left)) :
    pairs? value (s ++ e) = some (pairs.map (shiftPair e.length), left ++ e) := by
  unfold pairs? at read
  split at read
  next rest brace =>
    cases read
    have something : skipBlanks s ≠ [] := by simp [brace]
    simp only [pairs?, skipBlanks_append something, brace, List.cons_append, List.map_nil]
  next noBrace =>
    have something : skipBlanks s ≠ [] := by
      intro nothing
      have failed : pairStep value s = none := by
        simp [pairStep, pair?, key?_eq_none nothing]
      rw [collect_of_none failed] at read
      cases read
    obtain ⟨c, t, front⟩ := List.exists_cons_of_ne_nil something
    have rounds : collect (pairStep value) (s ++ e) =
        some (pairs.map (shiftPair e.length), left ++ e) := by
      refine collect_append ?_ ?_ read
      · intro s pieces ends
        obtain ⟨pair, left, same, _⟩ | ⟨pair, left, same, append⟩ :=
          pairStep_append stable solid follows ends
        · cases same
        · cases same
          exact append
      · intro s piece rest goes _
        obtain ⟨pair, left, same, append⟩ | ⟨pair, left, same, _⟩ :=
          pairStep_append stable solid follows goes
        · cases same
          exact append
        · cases same
    unfold pairs?
    rw [skipBlanks_append something, front]
    rw [front] at noBrace
    split
    next same => exact absurd (by rw [(List.cons.inj same).1]) (noBrace t)
    next => exact rounds

/-- An item of an array, with a comma after it or the bracket, or only the bracket. -/
theorem itemStep_append {round : Round Node} (goes : itemStep value s = some round) :
    (∃ node left, round = .more node left ∧
      itemStep value (s ++ e) = some (.more (node.shift e.length) (left ++ e))) ∨
      ∃ nodes left, round = .last nodes left ∧
        itemStep value (s ++ e) = some (.last (nodes.map (Node.shift e.length)) (left ++ e)) := by
  unfold itemStep at goes
  split at goes
  next rest bracket =>
    cases goes
    refine .inr ⟨[], rest, rfl, ?_⟩
    have whole : ¬ Splits (skipGap false s) := by simp [Splits, bracket]
    simp only [itemStep, skipGap_append whole, bracket, List.cons_append, List.map_nil]
  next noBracket =>
    split at goes
    next => cases goes
    next node rest read =>
      have whole : ¬ Splits (skipGap false s) := solid (by simp [read])
      have noBracket' : ∀ t, skipGap false s ++ e ≠ ']' :: t := by
        obtain ⟨c, t, front⟩ := List.exists_cons_of_ne_nil fun nothing => whole (.inl nothing)
        rw [front] at noBracket ⊢
        intro t' same
        exact noBracket t (by rw [(List.cons.inj same).1])
      have read' := stable read follows
      rw [← skipGap_append whole] at noBracket' read'
      split at goes
      next left comma =>
        cases goes
        have whole' : ¬ Splits (skipGap false rest) := by simp [Splits, comma]
        refine .inl ⟨node, left, rfl, itemStep_of_comma noBracket' read' ?_⟩
        rw [skipGap_append whole', comma, List.cons_append]
      next left bracket =>
        cases goes
        have whole' : ¬ Splits (skipGap false rest) := by simp [Splits, bracket]
        refine .inr ⟨[node], left, rfl, itemStep_of_bracket noBracket' read' ?_⟩
        rw [skipGap_append whole', bracket, List.cons_append]
      next => cases goes

theorem items_append {nodes : List Node} (read : collect (itemStep value) s = some (nodes, left)) :
    collect (itemStep value) (s ++ e) = some (nodes.map (Node.shift e.length), left ++ e) := by
  refine collect_append ?_ ?_ read
  · intro s pieces ends
    obtain ⟨node, left, same, _⟩ | ⟨nodes, left, same, append⟩ :=
      itemStep_append stable solid follows ends
    · cases same
    · cases same
      exact append
  · intro s piece rest goes _
    obtain ⟨node, left, same, append⟩ | ⟨nodes, left, same, _⟩ :=
      itemStep_append stable solid follows goes
    · cases same
      exact append
    · cases same

end

/-! ## Values -/

/-- The value that a reader of values with nothing inside gives. -/
def leaf? (s : List Char) : Option (Node × List Char) :=
  (scalar? s).map fun (v, rest) => (.scalar ⟨s.length, rest.length⟩ v, rest)

theorem value?_leaf {s : List Char} (noArray : ∀ rest, s ≠ '[' :: rest)
    (noTable : ∀ rest, s ≠ '\x7b' :: rest) (depth : Nat) : value? depth s = leaf? s := by
  cases depth with
  | zero => rw [value?, leaf?]
  | succ depth =>
    unfold value?
    split
    next => exact absurd rfl (noArray _)
    next => exact absurd rfl (noTable _)
    next => rfl

theorem solid_value? (depth : Nat) : Solid (value? depth) := by
  have failed {s : List Char} (split : Splits s) : value? depth s = none := by
    obtain rfl | rfl := split <;> rw [value?_leaf (by simp) (by simp)] <;> rfl
  exact fun s read split => read (failed split)

theorem stable_leaf? : Stable leaf? := by
  intro s e node left read follows
  obtain ⟨⟨v, left⟩, scalar, same⟩ := Option.map_eq_some_iff.mp read
  cases same
  rw [leaf?, scalar?_append follows scalar, List.length_append]
  simp [Node.shift, Span.shift]

/-- A value is read alike whatever follows it. -/
theorem stable_value? (depth : Nat) : Stable (value? depth) := by
  induction depth with
  | zero =>
    intro s e node left read follows
    rw [value?] at read ⊢
    exact stable_leaf? read follows
  | succ depth ih =>
    intro s e node left read follows
    have solid := solid_value? depth
    unfold value? at read
    split at read
    next rest =>
      obtain ⟨⟨items, left⟩, rounds, same⟩ := Option.map_eq_some_iff.mp read
      cases same
      rw [List.cons_append, value?, items_append ih solid follows rounds]
      simp [Node.shift, Span.shift, shiftNodes_eq_map]
      omega
    next rest =>
      obtain ⟨⟨pairs, left⟩, rounds, read⟩ := Option.bind_eq_some_iff.mp read
      obtain ⟨entries, table, same⟩ := Option.bind_eq_some_iff.mp read
      cases same
      simp only [List.cons_append, value?, pairs?_append ih solid follows rounds,
        Option.bind_eq_bind, Option.bind_some, tableOfPairs_shift, table, Option.map_some]
      simp [Node.shift, Span.shift]
      omega
    next noArray noTable =>
      rw [value?_leaf (append_ne follows ['['] (by decide) noArray)
        (append_ne follows ['\x7b'] (by decide) noTable)]
      exact stable_leaf? read follows

/-- No value begins with what ends one. -/
theorem value?_eq_none {c : Char} (ends : endsValue c = true) (s : List Char) (depth : Nat) :
    value? depth (c :: s) = none := by
  have scalar : scalar? (c :: s) = none := by
    obtain rfl | rfl | rfl | rfl | rfl | rfl | rfl | rfl := endsValue_cases ends <;>
      simp [scalar?, number?, moment?, year?, hour?, field?, sign, decimal?, decimalDigits?,
        digits?]
  have noArray : c ≠ '[' := ne_of_endsValue ends rfl
  have noTable : c ≠ '\x7b' := ne_of_endsValue ends rfl
  rw [value?_leaf (by simp [noArray]) (by simp [noTable]), leaf?, scalar]
  rfl

end VipHost.Toml
