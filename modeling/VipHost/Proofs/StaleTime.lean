import VipHost.Proofs.ExactDoubles
import VipHost.Proofs.FailedRequests
import VipHost.Proofs.LifeCycle

/-!
# Stale time never reaches the machine

To the clock a history is a list of *marks*: advances to a time stamp, and cuts,
after which no time is counted.  What an advance is owed follows from the last mark
alone (`owed`): the time since that stamp, or nothing.

Requests and refreshes leave marks in few cases.  A refresh leaves one unless it is
refused, whichever pump it is by (`Bench.marks_refresh`); a request leaves one if it
is an advance or cuts (`Bench.Marked`).  All else, a refused load or a key event or a
register write, leaves no mark and does not move the baseline.  So the clock keeps as
its baseline the stamp of the last mark (`Bench.baseline_after`).
-/

namespace VipHost

/-! ## Whole parts -/

/-- The whole part of a double, from zero up to the greatest number of 64 bits. -/
def Binary64.truncated (x : Binary64) : Nat :=
  match x.value? with
  | some q => min ⌊q⌋.toNat (2 ^ 64 - 1)
  | none => if x = .infinity false then 2 ^ 64 - 1 else 0

namespace Binary64

theorem eq_infinity {x : Binary64} (sign : x.negative = false)
    (top : x.pattern = infinityPattern) : x = infinity false := by
  obtain ⟨bits⟩ := x
  have below : bits.toNat < signWeight := by simpa [Binary64.negative] using sign
  have same : bits.toNat = infinityPattern := by
    rw [← top, pattern, Nat.mod_eq_of_lt below]
  rw [infinity, ofPattern, if_neg (by simp), ← same, UInt64.ofNat_toNat]

theorem toNat_toUInt64_eq_truncated (x : Binary64) : x.toUInt64.toNat = x.truncated := by
  cases finite : x.isFinite with
  | true =>
    have number := value?_of_isFinite finite
    rw [truncated, toNat_toUInt64 number, number]
  | false =>
    have least : infinityPattern ≤ x.pattern := by simpa [isFinite] using finite
    rw [truncated, value?_eq_none finite, toUInt64]
    dsimp only
    by_cases infinite : x = infinity false
    · have large : UInt64.size - 1 ≤ unitsOf (infinity false).pattern / unitsPerOne := by
        decide +kernel
      rw [if_pos infinite, infinite, Nat.min_eq_right large]
      rfl
    · have odd : (x.isNaN || x.negative) = true := by
        cases sign : x.negative with
        | true => simp
        | false =>
          have above : infinityPattern ≠ x.pattern := fun top =>
            infinite (eq_infinity sign top.symm)
          simpa [isNaN] using lt_of_le_of_ne least above
      rw [if_neg infinite, if_pos odd]
      rfl

end Binary64

/-! ## Marks -/

/-- What matters to the clock. -/
inductive Mark where
  | advanced (now : Binary64)
  /-- The time before it no longer counts. -/
  | cut
deriving DecidableEq

/-- The mark that a change leaves.  A program that does not fit leaves none. -/
def Change.mark? : Change → Option Mark
  | .load program => if Memory.programCapacity < program.size then none else some .cut
  | .reset => some .cut
  | .invalidate => some .cut
  | .advance now => some (.advanced now)
  | .key _ _ => none
  | .registers _ => none
  | .poke _ _ => none

theorem Change.eq_advance {c : Change} {now : Binary64} (mark : c.mark? = some (.advanced now)) :
    c = .advance now := by
  cases c with
  | load program =>
    by_cases oversized : Memory.programCapacity < program.size
    · rw [mark?, if_pos oversized] at mark
      cases mark
    · rw [mark?, if_neg oversized] at mark
      cases mark
  | reset => cases mark
  | invalidate => cases mark
  | advance now' =>
    cases mark
    rfl
  | key k state => cases mark
  | registers r => cases mark
  | poke start data => cases mark

/-- The baseline after a mark. -/
def Mark.baseline : Mark → Option Binary64
  | .advanced now => if now.isFinite then some now else none
  | .cut => none

/-- The virtual time from one stamp to another in microseconds, if it is later. -/
def lapse (previous now : Binary64) : Nat :=
  match previous.value?, now.value? with
  | some p, some n => if p < n then ((now.sub previous).mul (.ofNat 1000)).truncated else 0
  | _, _ => 0

/-- The virtual time that is owed to an advance.  It is counted from the last mark, and
only if that is an advance. -/
def owed (history : List Mark) (now : Binary64) : Nat :=
  match history.getLast? with
  | some (.advanced previous) => lapse previous now
  | _ => 0

theorem lapse_of_not_finite {previous now : Binary64}
    (odd : previous.isFinite = false ∨ now.isFinite = false) : lapse previous now = 0 := by
  unfold lapse
  obtain odd | odd := odd
  · rw [Binary64.value?_eq_none odd]
  · rw [Binary64.value?_eq_none odd]
    cases previous.value? with
    | none => rfl
    | some p => rfl

/-- Between finite stamps the clock counts time if the second is later. -/
theorem lapse_of_finite {previous now : Binary64} (finite : previous.isFinite = true)
    (finite' : now.isFinite = true) :
    lapse previous now = if now.le previous then 0 else (Clock.span previous now).toNat := by
  have number := Binary64.value?_of_isFinite finite
  have number' := Binary64.value?_of_isFinite finite'
  have order := Binary64.le_iff_of_value? number' number
  rw [lapse, number, number']
  dsimp only
  split
  next forward =>
    rw [if_neg fun back => not_lt.mpr (order.mp back) forward, Clock.span,
      Binary64.toNat_toUInt64_eq_truncated]
    rfl
  next backward => rw [if_pos (order.mpr (not_lt.mp backward))]

namespace Clock

theorem value_tick_not_finite (c : Clock) {now : Binary64} (odd : now.isFinite = false) :
    (c.tick now).value = (0, { c with baseline := none }) := by
  rw [tick, if_pos (by simp [odd])]
  rfl

theorem value_tick_first {c : Clock} (pending : c.baseline = none) {now : Binary64}
    (finite : now.isFinite = true) : (c.tick now).value = (0, { c with baseline := some now }) := by
  rw [tick, if_neg (by simp [finite]), pending]
  rfl

theorem value_tick_next {c : Clock} {previous : Binary64} (counts : c.baseline = some previous)
    {now : Binary64} (finite : now.isFinite = true) :
    (c.tick now).value =
      if now.le previous then (0, { c with baseline := some now })
      else (span previous now, ⟨some now, saturatingAdd c.total (span previous now)⟩) := by
  rw [tick, if_neg (by simp [finite]), counts]
  dsimp only
  split
  · rfl
  · rfl

theorem baseline_tick (c : Clock) (now : Binary64) :
    (c.tick now).value.2.baseline = (Mark.advanced now).baseline := by
  rw [Mark.baseline]
  cases finite : now.isFinite with
  | false => rw [c.value_tick_not_finite finite, if_neg (by simp)]
  | true =>
    rw [if_pos rfl]
    cases counts : c.baseline with
    | none => rw [value_tick_first counts finite]
    | some previous =>
      rw [value_tick_next counts finite]
      split
      · rfl
      · rfl

theorem elapsed_pending {c : Clock} (pending : c.baseline = none) (now : Binary64) :
    (c.tick now).value.1 = 0 := by
  cases finite : now.isFinite with
  | false => rw [c.value_tick_not_finite finite]
  | true => rw [value_tick_first pending finite]

/-- A clock whose baseline is that of an advance hands out the time since then. -/
theorem toNat_elapsed {c : Clock} {previous : Binary64}
    (counts : c.baseline = (Mark.advanced previous).baseline) (now : Binary64) :
    (c.tick now).value.1.toNat = lapse previous now := by
  rw [Mark.baseline] at counts
  cases finite : now.isFinite with
  | false =>
    rw [c.value_tick_not_finite finite, lapse_of_not_finite (.inr finite)]
    rfl
  | true =>
    cases finite' : previous.isFinite with
    | false =>
      rw [finite', if_neg (by simp)] at counts
      rw [elapsed_pending counts, lapse_of_not_finite (.inl finite')]
      rfl
    | true =>
      rw [finite', if_pos rfl] at counts
      rw [value_tick_next counts finite, lapse_of_finite finite' finite]
      split
      · rfl
      · rfl

/-- A clock whose baseline is that of the last mark hands out what is owed. -/
theorem toNat_tick {c : Clock} {history : List Mark}
    (kept : c.baseline = history.getLast?.elim none Mark.baseline) (now : Binary64) :
    (c.tick now).value.1.toNat = owed history now := by
  unfold owed
  cases last : history.getLast? with
  | none =>
    rw [last] at kept
    rw [elapsed_pending kept]
    rfl
  | some mark =>
    rw [last] at kept
    cases mark with
    | cut =>
      rw [elapsed_pending kept]
      rfl
    | advanced previous => exact toNat_elapsed kept now

end Clock

namespace Session

theorem baseline_change (s : Session) (c : Change) :
    (s.change c).clock.baseline = c.mark?.elim s.clock.baseline Mark.baseline := by
  cases c with
  | load program =>
    by_cases oversized : Memory.programCapacity < program.size
    · rw [change, value_load_of_oversized s oversized, Change.mark?, if_pos oversized]
      rfl
    · rw [change, value_load_of_fits s (Nat.not_lt.mp oversized), Change.mark?, if_neg oversized]
      rfl
  | reset =>
    rw [change, value_reset]
    rfl
  | invalidate => rfl
  | advance now => exact s.clock.baseline_tick now
  | key k state => rfl
  | registers r => rfl
  | poke start data =>
    rw [change, poke]
    cases s.machine.memory.write? start data with
    | none => rfl
    | some memory => rfl

theorem baseline_changeAll (s : Session) (cs : List Change) :
    (s.changeAll cs).clock.baseline =
      (cs.filterMap Change.mark?).getLast?.elim s.clock.baseline Mark.baseline := by
  induction cs generalizing s with
  | nil => rfl
  | cons c cs ih =>
    rw [changeAll_cons, ih, baseline_change]
    cases mark : c.mark? with
    | none => rw [List.filterMap_cons_none mark]; rfl
    | some m =>
      -- this mark counts only if none comes later
      rw [List.filterMap_cons_some mark, List.getLast?_cons]
      cases (cs.filterMap Change.mark?).getLast? with
      | none => rfl
      | some last => rfl

end Session

namespace Bench

/-- The changes of a step that is not a run. -/
def stepChanges (b : Bench) : Step → List Change
  | .request r => b.changes r
  | .refresh _ now => b.refreshChanges now
  | _ => []

/-- The session after a single step is the session after its changes. -/
theorem session_perform {s : Step} (single : s.isSingle = true) (b : Bench) :
    (b.perform s).2.host.session = b.host.session.changeAll (b.stepChanges s) := by
  cases s with
  | request r => exact b.session_answer r
  | refresh pump now => exact b.session_tick pump now
  | run pump script => cases single
  | addPump => rfl
  | setDisplay d => rfl

/-- The changes of some single steps, in order. -/
def allChanges : Bench → List Step → List Change
  | _, [] => []
  | b, s :: steps => b.stepChanges s ++ (b.perform s).2.allChanges steps

/-- The session after some single steps is the session after their changes. -/
theorem session_after_single {steps : List Step} (single : ∀ s ∈ steps, s.isSingle = true)
    (b : Bench) : (b.after steps).host.session = b.host.session.changeAll (b.allChanges steps) := by
  induction steps generalizing b with
  | nil => rfl
  | cons s steps ih =>
    rw [after_cons, ih (fun t ht => single t (.tail _ ht)), session_perform (single s (.head _)),
      allChanges, Session.changeAll_append]

/-- The marks that a single step leaves. -/
def marks (b : Bench) (s : Step) : List Mark := (b.stepChanges s).filterMap Change.mark?

/-- The marks that some single steps leave, in order. -/
def timeline (b : Bench) (steps : List Step) : List Mark :=
  (b.allChanges steps).filterMap Change.mark?

theorem timeline_cons (b : Bench) (s : Step) (steps : List Step) :
    b.timeline (s :: steps) = b.marks s ++ (b.perform s).2.timeline steps :=
  List.filterMap_append

theorem allChanges_append (b : Bench) (first second : List Step) :
    b.allChanges (first ++ second) = b.allChanges first ++ (b.after first).allChanges second := by
  induction first generalizing b with
  | nil => rfl
  | cons s first ih =>
    rw [List.cons_append, allChanges, ih, after_cons, allChanges, List.append_assoc]

/-- One more step adds its marks. -/
theorem timeline_concat (b : Bench) (steps : List Step) (s : Step) :
    b.timeline (steps ++ [s]) = b.timeline steps ++ (b.after steps).marks s := by
  rw [timeline, allChanges_append, List.filterMap_append, allChanges, allChanges, List.append_nil]
  rfl

theorem baseline_perform {s : Step} (single : s.isSingle = true) (b : Bench) :
    (b.perform s).2.host.session.clock.baseline =
      (b.marks s).getLast?.elim b.host.session.clock.baseline Mark.baseline := by
  rw [session_perform single, Session.baseline_changeAll, marks]

/-- The baseline is that of the last mark. -/
theorem baseline_after {steps : List Step} (single : ∀ s ∈ steps, s.isSingle = true) (b : Bench) :
    (b.after steps).host.session.clock.baseline =
      (b.timeline steps).getLast?.elim b.host.session.clock.baseline Mark.baseline := by
  rw [session_after_single single, Session.baseline_changeAll, timeline]

/-! ## Who leaves a mark -/

end Bench

/-- The requests that load a program. -/
inductive Request.Loads : Request → Prop where
  | load (program : Bytes) : Request.Loads (.load program)
  | loadFrom (source : Host.Source) : Request.Loads (.loadFrom source)
  | openFile (path : String) : Request.Loads (.openFile path)
  | loadFile (path : String) : Request.Loads (.loadFile path)

/-- Whether there are cases in which a request leaves a mark. -/
def Request.mayMark : Request → Bool
  | .load _ => true
  | .loadFrom _ => true
  | .openFile _ => true
  | .loadFile _ => true
  | .reload => true
  | .reset => true
  | .event _ => true
  | .keyboard _ _ => true
  | .invalidate => true
  | .advanceTo _ => true
  | _ => false

namespace Bench

/-- An event that cuts: a reset, or a reload that loads. -/
def EventCuts (b : Bench) (e : HostEvent) : Prop :=
  e = .reset ∨ e = .reload ∧ (b.answer .reload).value.1 = .flag true

/-- The requests that cut: loads and reloads that succeed, resets, and an
invalidation. -/
inductive Cuts (b : Bench) : Request → Prop where
  | load {r : Request} (loads : r.Loads) (done : (b.answer r).value.1 = .nothing) : Cuts b r
  | reload (done : (b.answer .reload).value.1 = .flag true) : Cuts b .reload
  | reset : Cuts b .reset
  | invalidate : Cuts b .invalidate
  | event {e : HostEvent} (cuts : b.EventCuts e) : Cuts b (.event e)
  | keyboard {e : KeyEvent} {now : Nat} {asked : HostEvent}
      (means : (e.meaning b.hold now).value.1 = some asked) (cuts : b.EventCuts asked) :
      Cuts b (.keyboard e now)

/-- What a request marks: an advance, a cut, or nothing. -/
inductive Marked (b : Bench) : Request → List Mark → Prop where
  | advanced (now : Binary64) : Marked b (.advanceTo now) [.advanced now]
  | cut {r : Request} (cuts : b.Cuts r) : Marked b r [.cut]
  | none {r : Request} (noAdvance : ∀ now, r ≠ .advanceTo now) (noCut : ¬ b.Cuts r) : Marked b r []

/-- A load cuts if it succeeds. -/
theorem cuts_load_iff {b : Bench} {r : Request} (loads : r.Loads) :
    b.Cuts r ↔ (b.answer r).value.1 = .nothing := by
  constructor
  · intro cuts
    cases cuts with
    | load _ done => exact done
    | reload _ => cases loads
    | reset => cases loads
    | invalidate => cases loads
    | event _ => cases loads
    | keyboard _ _ => cases loads
  · exact .load loads

theorem cuts_reload_iff {b : Bench} : b.Cuts .reload ↔ (b.answer .reload).value.1 = .flag true := by
  constructor
  · intro cuts
    cases cuts with
    | load loads _ => cases loads
    | reload done => exact done
  · exact .reload

theorem cuts_event_iff {b : Bench} {e : HostEvent} : b.Cuts (.event e) ↔ b.EventCuts e := by
  constructor
  · intro cuts
    cases cuts with
    | load loads _ => cases loads
    | event cuts => exact cuts
  · exact .event

/-- A key of the keyboard cuts if the event it means does. -/
theorem cuts_keyboard_iff {b : Bench} {e : KeyEvent} {now : Nat} :
    b.Cuts (.keyboard e now) ↔
      ∃ asked, (e.meaning b.hold now).value.1 = some asked ∧ b.EventCuts asked := by
  constructor
  · intro cuts
    cases cuts with
    | load loads _ => cases loads
    | keyboard means cuts => exact ⟨_, means, cuts⟩
  · rintro ⟨asked, means, cuts⟩
    exact .keyboard means cuts

theorem Marked.of_cases {b : Bench} {r : Request} {left : List Mark}
    (noAdvance : ∀ now, r ≠ .advanceTo now)
    (cases : (b.Cuts r ∧ left = [.cut]) ∨ (¬ b.Cuts r ∧ left = [])) : b.Marked r left := by
  obtain ⟨cuts, rfl⟩ | ⟨spares, rfl⟩ := cases
  · exact .cut cuts
  · exact .none noAdvance spares

theorem marks_program (program : Bytes) :
    [Change.load program].filterMap Change.mark? =
      match fitting program with
      | .error _ => []
      | .ok _ => [.cut] := by
  unfold fitting
  by_cases oversized : Memory.programCapacity < program.size
  · have none : (Change.load program).mark? = none := if_pos oversized
    rw [if_pos oversized, List.filterMap_cons_none none]
    rfl
  · have cut : (Change.load program).mark? = some .cut := if_neg oversized
    rw [if_neg oversized, List.filterMap_cons_some cut]
    rfl

theorem marks_file (read : FileReader) (path : String) :
    (Host.fileChanges read path).filterMap Change.mark? =
      match read.program path with
      | .error _ => []
      | .ok _ => [.cut] := by
  unfold Host.fileChanges FileReader.program
  cases read path with
  | error e => rfl
  | ok program => exact marks_program program

/-- A load that succeeds cuts and leaves a freshly loaded machine.  One that fails leaves no
mark. -/
theorem load_cases (b : Bench) {r : Request} (loads : r.Loads) :
    ((b.answer r).value.1 = .nothing ∧ ∃ program, b.marks (.request r) = [.cut] ∧
        (b.perform (.request r)).2.host.session =
          { machine := b.host.session.machine.loaded program }) ∨
      (∃ e, (b.answer r).value.1 = .failed e) ∧ b.marks (.request r) = [] := by
  have fresh := Host.session_loaded b.host
  simp only [marks, stepChanges, perform, Prod.map_snd, id]
  cases loads with
  | load program =>
    simp only [changes, marks_program, answer, Logged.value_bind, Host.value_load]
    cases fitting program with
    | error e => exact .inr ⟨⟨e, rfl⟩, rfl⟩
    | ok program => exact .inl ⟨rfl, program, rfl, fresh program⟩
  | loadFrom source =>
    simp only [changes, answer, Logged.value_bind, Host.value_loadFrom, Host.Source.program]
    cases source.failure with
    | some e => exact .inr ⟨⟨_, rfl⟩, rfl⟩
    | none =>
      simp only [marks_program]
      cases fitting source.bytes with
      | error e => exact .inr ⟨⟨e, rfl⟩, rfl⟩
      | ok program => exact .inl ⟨rfl, program, rfl, fresh program⟩
  | openFile path =>
    simp only [changes, marks_file, answer, Logged.value_bind, Host.value_openFile]
    cases b.files.read.program path with
    | error e => exact .inr ⟨⟨e, rfl⟩, rfl⟩
    | ok program => exact .inl ⟨rfl, program, rfl, fresh program⟩
  | loadFile path =>
    simp only [changes, marks_file, answer, Logged.value_bind, Host.value_loadFile]
    cases b.files.read.program path with
    | error e => exact .inr ⟨⟨e, rfl⟩, rfl⟩
    | ok program => exact .inl ⟨rfl, program, rfl, fresh program⟩

theorem marks_reload (b : Bench) :
    ((b.answer .reload).value.1 = .flag true ∧ b.marks (.request .reload) = [.cut]) ∨
      ((b.answer .reload).value.1 ≠ .flag true ∧ b.marks (.request .reload) = []) := by
  simp only [marks, stepChanges, changes, Host.reloadChanges, answer, Logged.value_bind]
  cases remembered : b.host.programPath with
  | none =>
    rw [Host.value_reload_none b.host _ remembered]
    exact .inr ⟨by simp, rfl⟩
  | some path =>
    rw [Host.value_reload_some b.host _ remembered]
    simp only [marks_file]
    cases b.files.read.program path with
    | error e => exact .inr ⟨by simp, rfl⟩
    | ok program => exact .inl ⟨rfl, rfl⟩

theorem marks_keyChanges (l : Layout) (c : Char) (state : KeyState) :
    (Host.keyChanges l c state).filterMap Change.mark? = [] := by
  unfold Host.keyChanges
  cases l.key? c with
  | none => rfl
  | some k => rfl

theorem marks_event (b : Bench) (e : HostEvent) :
    (b.EventCuts e ∧ (b.host.eventChanges b.files.read e).filterMap Change.mark? = [.cut]) ∨
      (¬ b.EventCuts e ∧ (b.host.eventChanges b.files.read e).filterMap Change.mark? = []) := by
  cases e with
  | reset => exact .inl ⟨.inl rfl, rfl⟩
  | reload =>
    obtain ⟨done, cut⟩ | ⟨failed, none⟩ := b.marks_reload
    · exact .inl ⟨.inr ⟨rfl, done⟩, cut⟩
    · exact .inr ⟨by simpa [EventCuts] using failed, none⟩
  | key c state => exact .inr ⟨by simp [EventCuts], marks_keyChanges _ c state⟩
  | start => exact .inr ⟨by simp [EventCuts], rfl⟩
  | dumpRegisters => exact .inr ⟨by simp [EventCuts], rfl⟩
  | quit => exact .inr ⟨by simp [EventCuts], rfl⟩

theorem marked_load (b : Bench) {r : Request} (loads : r.Loads) :
    b.Marked r (b.marks (.request r)) := by
  refine .of_cases (fun now same => ?_) ?_
  · rw [same] at loads
    cases loads
  · rw [cuts_load_iff loads]
    obtain ⟨done, _, cut, _⟩ | ⟨⟨e, failed⟩, none⟩ := b.load_cases loads
    · exact .inl ⟨done, cut⟩
    · exact .inr ⟨by simp [failed], none⟩

theorem not_cuts_of_not_mayMark {b : Bench} {r : Request} (quiet : r.mayMark = false) :
    ¬ b.Cuts r := by
  intro cuts
  cases cuts with
  | load loads _ =>
    cases loads with
    | load _ => cases quiet
    | loadFrom _ => cases quiet
    | openFile _ => cases quiet
    | loadFile _ => cases quiet
  | reload _ => cases quiet
  | reset => cases quiet
  | invalidate => cases quiet
  | event _ => cases quiet
  | keyboard _ _ => cases quiet

theorem marks_of_not_mayMark (b : Bench) {r : Request} (quiet : r.mayMark = false) :
    b.marks (.request r) = [] := by
  cases r with
  | load program => cases quiet
  | loadFrom source => cases quiet
  | openFile path => cases quiet
  | loadFile path => cases quiet
  | reload => cases quiet
  | reset => cases quiet
  | event e => cases quiet
  | keyboard e now => cases quiet
  | invalidate => cases quiet
  | advanceTo now => cases quiet
  | key c state => exact marks_keyChanges _ c state
  | expire now =>
    simp only [marks, stepChanges, changes]
    cases b.hold with
    | none => rfl
    | some hold =>
      rw [List.filterMap_flatMap]
      simp only [marks_keyChanges, List.flatMap_eq_nil_iff, implies_true]
  | writeSnapshot text =>
    simp only [marks, stepChanges, changes]
    cases Registers.ofText text with
    | error e => rfl
    | ok r => rfl
  | _ => rfl

/-- Every request leaves one of these. -/
theorem marked (b : Bench) (r : Request) : b.Marked r (b.marks (.request r)) := by
  cases may : r.mayMark with
  | false =>
    rw [b.marks_of_not_mayMark may]
    refine .none (fun now same => ?_) (not_cuts_of_not_mayMark may)
    rw [same] at may
    cases may
  | true =>
    cases r with
    | load program => exact b.marked_load (.load program)
    | loadFrom source => exact b.marked_load (.loadFrom source)
    | openFile path => exact b.marked_load (.openFile path)
    | loadFile path => exact b.marked_load (.loadFile path)
    | reset => exact .cut .reset
    | invalidate => exact .cut .invalidate
    | advanceTo now => exact .advanced now
    | reload =>
      refine .of_cases (by simp) ?_
      rw [cuts_reload_iff]
      exact b.marks_reload
    | event e =>
      refine .of_cases (by simp) ?_
      rw [cuts_event_iff]
      exact b.marks_event e
    | keyboard e now =>
      refine .of_cases (by simp) ?_
      rw [cuts_keyboard_iff, marks, stepChanges, changes]
      cases (e.meaning b.hold now).value.1 with
      | none => exact .inr ⟨by simp, rfl⟩
      | some asked => simpa using b.marks_event asked
    | _ => cases may

/-- A request that fails leaves no mark. -/
theorem marks_of_isFailed {b : Bench} {r : Request}
    (failed : (b.answer r).value.1.isFailed = true) : b.marks (.request r) = [] := by
  have marked := b.marked r
  generalize b.marks (.request r) = left at marked
  cases marked with
  | none _ _ => rfl
  | advanced now => cases failed
  | cut cuts =>
    cases cuts with
    | load _ done => rw [done] at failed; cases failed
    | reload done => rw [done] at failed; cases failed
    | reset => cases failed
    | invalidate => cases failed
    | event _ => cases failed
    | @keyboard e now asked means _ =>
      simp only [answer, Logged.value_bind, means] at failed
      cases failed

theorem marks_refresh (b : Bench) (pump : Nat) (now : Binary64) :
    b.marks (.refresh pump now) = if b.host.control.admits then [.advanced now] else [] := by
  rw [marks, stepChanges, refreshChanges]
  split
  · rfl
  · rfl

/-- Stale time never reaches the machine.  Take a fresh session, any work with its
runs unrolled, and any point in it, with the marks left so far as its history.  Each
advance there, by a request or by any of the pumps, advances the machine by what the
history owes it, and a refused refresh changes nothing.  Of the requests, advances
and the ones that cut leave a mark and all others leave none, above all those that
fail.  What leaves no mark does not move the baseline. -/
theorem stale_time_never_applied (w : Bench) (seed : UInt64) (steps : List Step) :
    let b := w.withSession (.start seed)
    let flat := b.unrolledAll steps
    b.after flat = b.after steps ∧
      ∀ before, before <+: flat →
        let here := b.after before
        let history := b.timeline before
        (∀ now, ∃ e : UInt64, e.toNat = owed history now ∧
          let done := here.perform (.request (.advanceTo now))
          done.1 = .answered (.elapsed e) ∧
            done.2.host.session.machine = here.host.session.machine.advance e) ∧
        (∀ pump now,
          let done := here.perform (.refresh pump now)
          (done = (.ticked .refused, here) ∧ here.marks (.refresh pump now) = []) ∨
            ∃ t, ∃ e : UInt64, e.toNat = owed history now ∧ done.1 = .ticked t ∧ t ≠ .refused ∧
              (∀ e', t = .shown e' → e' = e) ∧
              done.2.host.session.machine = here.host.session.machine.advance e ∧
              here.marks (.refresh pump now) = [.advanced now]) ∧
        (∀ r, here.Marked r (here.marks (.request r)) ∧
          ((here.answer r).value.1.isFailed = true →
            here.marks (.request r) = [] ∧ (here.perform (.request r)).2 = here)) ∧
        ∀ s, s.isSingle = true →
          b.timeline (before ++ [s]) = history ++ here.marks s ∧
            (here.marks s = [] →
              (here.perform s).2.host.session.clock.baseline =
                here.host.session.clock.baseline) := by
  intro b flat
  refine ⟨b.after_unrolledAll steps, ?_⟩
  intro before initial here history
  have single : ∀ s ∈ before, s.isSingle = true :=
    fun s part => isSingle_unrolledAll (initial.subset part)
  have kept : here.host.session.clock.baseline = history.getLast?.elim none Mark.baseline :=
    b.baseline_after single
  have owes : ∀ now, (here.host.session.advanceTo now).value.1.toNat = owed history now :=
    Clock.toNat_tick kept
  refine ⟨?_, ?_, ?_, ?_⟩
  · intro now
    exact ⟨_, owes now, rfl, rfl⟩
  · intro pump now done
    rw [marks_refresh]
    cases admitted : here.host.control.admits with
    | false => exact .inl ⟨perform_refresh_refused pump now admitted, rfl⟩
    | true =>
      obtain ⟨⟨d, drawn⟩, advanced, _⟩ := perform_refresh_admitted pump now admitted
      obtain ⟨notRefused, shown⟩ := Drawn.ticked_cases _ d
      exact .inr ⟨_, _, owes now, drawn, notRefused, shown, congrArg Session.machine advanced, rfl⟩
  · intro r
    exact ⟨here.marked r, fun failed => ⟨marks_of_isFailed failed, answer_of_isFailed failed⟩⟩
  · intro s one
    refine ⟨b.timeline_concat before s, fun none => ?_⟩
    rw [baseline_perform one, none]
    rfl

/-- A second pump goes on from the stamp of the first one's refresh, one millisecond
later. -/
theorem stale_time_never_applied_of_two_pumps :
    let b := (default : Bench).withSession (.start 42)
    let first : Binary64 := ⟨0x3ff0000000000000⟩
    let second : Binary64 := ⟨0x4000000000000000⟩
    let steps : List Step :=
      [.request .start, .addPump, .run 0 [.refresh first, .request (.key 'w' .pressed)]]
    let before : List Step :=
      [.request .start, .addPump, .refresh 0 first, .request (.key 'w' .pressed)]
    let here := b.after before
    before <+: b.unrolledAll steps ∧ b.timeline before = [.advanced first] ∧
      owed [.advanced first] second = 1000 ∧
      (here.perform (.refresh 1 second)).2.host.session.machine =
        here.host.session.machine.advance 1000 := by
  intro b first second steps before here
  have unrolled : b.unrolledAll steps = before := by rfl
  have history : b.timeline before = [.advanced first] := by rfl
  have time : owed [.advanced first] second = 1000 := by decide +kernel
  have initial : before <+: b.unrolledAll steps := unrolled ▸ List.prefix_rfl
  obtain ⟨_, each⟩ := stale_time_never_applied default 42 steps
  obtain ⟨_, refresh, _, _⟩ := each before initial
  refine ⟨initial, history, time, ?_⟩
  obtain ⟨_, none⟩ | ⟨_, e, owes, _, _, _, advanced, _⟩ := refresh 1 second
  · have mark : here.marks (.refresh 1 second) = [.advanced second] := by rfl
    cases mark.symm.trans none
  · have thousand : e = 1000 := UInt64.toNat_inj.mp (by rw [owes, history, time]; rfl)
    rw [thousand] at advanced
    exact advanced

end Bench

end VipHost
