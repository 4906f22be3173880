import VipHost.Bench

/-!
# Work at a bench

What is done at a bench over time, as a list of *steps*: requests, refreshes by
one of the pumps, whole runs of a pump over a script, a further pump, another
display.  `Bench.after` is the bench after some steps, and `Bench.trace` keeps
for every step what came of it and the bench it left.

A run of a pump is made of requests, refreshes and a cancel.  So what these keep
is kept by a run (`pumpScript_preserves`), and what every step keeps holds after
any work (`after_preserves`).  A property that only some *bad* steps break holds
all along exactly where no step is bad (`throughout_iff_never`).
-/

namespace VipHost

/-- One step of work at a bench. -/
inductive Step where
  /-- A request. -/
  | request (r : Request)
  /-- A refresh by one of the pumps. -/
  | refresh (pump : Nat) (now : Binary64)
  /-- A run of one of the pumps over a script. -/
  | run (pump : Nat) (script : List Bench.Cue)
  /-- One more pump. -/
  | addPump
  /-- Another display takes the place of the present one. -/
  | setDisplay (d : Display)

/-- What comes of a step. -/
inductive Outcome where
  | answered (a : Answer)
  | ticked (t : Ticked)
  | ran (r : Bench.RunResult)
  | done

namespace Bench

/-- What comes of a step, and the bench after it. -/
def perform (b : Bench) : Step → Outcome × Bench
  | .request r => (b.answer r).value.map .answered id
  | .refresh pump now => (b.tick pump now).value.map .ticked id
  | .run pump script => (b.run pump script).value.map .ran id
  | .addPump => (.done, b.addPump)
  | .setDisplay d => (.done, { b with display := d })

/-- The bench after some steps. -/
def after : Bench → List Step → Bench
  | b, [] => b
  | b, s :: steps => (b.perform s).2.after steps

/-- One step of some work, with what came of it. -/
structure Entry where
  /-- The step. -/
  step : Step
  /-- What came of it. -/
  outcome : Outcome
  /-- The bench after it. -/
  bench : Bench

/-- The steps of some work with what came of them, in order. -/
def trace : Bench → List Step → List Entry
  | _, [] => []
  | b, s :: steps => ⟨s, (b.perform s).1, (b.perform s).2⟩ :: (b.perform s).2.trace steps

@[simp] theorem after_nil (b : Bench) : b.after [] = b := rfl

@[simp] theorem after_cons (b : Bench) (s : Step) (steps : List Step) :
    b.after (s :: steps) = (b.perform s).2.after steps := rfl

/-- What each of some steps keeps holds after all of them. -/
theorem after_preserves {P : Bench → Prop} {steps : List Step}
    (step : ∀ b, ∀ s ∈ steps, P b → P (b.perform s).2) {b : Bench} (hb : P b) :
    P (b.after steps) := by
  induction steps generalizing b with
  | nil => exact hb
  | cons s steps ih =>
    have hs : P (b.perform s).2 := step b s (.head _) hb
    exact ih (fun b t ht => step b t (.tail _ ht)) hs

/-! ## All along some work -/

/-- A property of every bench that some work comes to. -/
def Throughout (P : Bench → Prop) (b : Bench) (steps : List Step) : Prop :=
  ∀ before, before <+: steps → P (b.after before)

/-- No step of some work is bad where it is done. -/
def Never (Bad : Bench → Step → Prop) (b : Bench) (steps : List Step) : Prop :=
  ∀ before s rest, steps = before ++ s :: rest → ¬ Bad (b.after before) s

theorem throughout_nil {P : Bench → Prop} {b : Bench} : Throughout P b [] ↔ P b := by
  simp [Throughout]

theorem throughout_cons {P : Bench → Prop} {b : Bench} {s : Step} {steps : List Step} :
    Throughout P b (s :: steps) ↔ P b ∧ Throughout P (b.perform s).2 steps := by
  constructor
  · intro all
    refine ⟨all [] List.nil_prefix, fun before initial => ?_⟩
    exact all (s :: before) (List.prefix_cons_inj s |>.mpr initial)
  · intro ⟨now, later⟩ before initial
    obtain rfl | ⟨before', rfl, initial'⟩ := List.prefix_cons_iff.mp initial
    · exact now
    · exact later before' initial'

theorem never_nil {Bad : Bench → Step → Prop} {b : Bench} : Never Bad b [] := by
  intro before s rest split
  cases before with
  | nil => cases split
  | cons t before => cases split

theorem never_cons {Bad : Bench → Step → Prop} {b : Bench} {s : Step} {steps : List Step} :
    Never Bad b (s :: steps) ↔ ¬ Bad b s ∧ Never Bad (b.perform s).2 steps := by
  constructor
  · intro never
    refine ⟨never [] s steps rfl, fun before t rest split => ?_⟩
    exact never (s :: before) t rest (by rw [split]; rfl)
  · intro ⟨now, later⟩ before t rest split
    cases before with
    | nil =>
      cases split
      exact now
    | cons s' before =>
      cases split
      exact later before t rest rfl

theorem Never.mono {Bad Worse : Bench → Step → Prop} (worse : ∀ b s, Bad b s → Worse b s)
    {b : Bench} {steps : List Step} (never : Never Worse b steps) : Never Bad b steps :=
  fun before s rest split bad => never before s rest split (worse _ s bad)

/-- No step of some work is bad, or there is a last one. -/
theorem never_or_last (Bad : Bench → Step → Prop) (b : Bench) (steps : List Step) :
    Never Bad b steps ∨
      ∃ early s late, steps = early ++ s :: late ∧ Bad (b.after early) s ∧
        Never Bad ((b.after early).perform s).2 late := by
  induction steps generalizing b with
  | nil => exact .inl never_nil
  | cons s steps ih =>
    rcases ih (b.perform s).2 with never | ⟨early, t, late, rfl, bad, never⟩
    · by_cases bad : Bad b s
      · exact .inr ⟨[], s, steps, rfl, bad, never⟩
      · exact .inl (never_cons.mpr ⟨bad, never⟩)
    · exact .inr ⟨s :: early, t, late, rfl, bad, never⟩

/-- Where a property that is kept rules out bad steps, no step is bad. -/
theorem never_of_kept {I : Bench → Prop} {Bad : Bench → Step → Prop} {steps : List Step}
    (keeps : ∀ b, ∀ s ∈ steps, I b → I (b.perform s).2)
    (good : ∀ b, ∀ s ∈ steps, I b → ¬ Bad b s) {b : Bench} (hI : I b) : Never Bad b steps := by
  induction steps generalizing b with
  | nil => exact never_nil
  | cons s steps ih =>
    refine never_cons.mpr ⟨good b s (.head _) hI, ?_⟩
    exact ih (fun b t ht => keeps b t (.tail _ ht)) (fun b t ht => good b t (.tail _ ht))
      (keeps b s (.head _) hI)

/-- A property that only bad steps break holds all along exactly where no step is
bad. -/
theorem throughout_iff_never {I P : Bench → Prop} {Bad : Bench → Step → Prop} {steps : List Step}
    (keeps : ∀ b, ∀ s ∈ steps, I b → I (b.perform s).2)
    (breaks : ∀ b, ∀ s ∈ steps, I b → P b → (P (b.perform s).2 ↔ ¬ Bad b s))
    {b : Bench} (hI : I b) (hP : P b) : Throughout P b steps ↔ Never Bad b steps := by
  induction steps generalizing b with
  | nil => exact ⟨fun _ => never_nil, fun _ => throughout_nil.mpr hP⟩
  | cons s steps ih =>
    have once := breaks b s (.head _) hI hP
    -- `P` after the first step is only known in each direction, so `ih` waits for it
    have rest := fun hP' => ih (fun b t ht => keeps b t (.tail _ ht))
      (fun b t ht => breaks b t (.tail _ ht)) (keeps b s (.head _) hI) hP'
    rw [throughout_cons, never_cons]
    constructor
    · intro ⟨_, later⟩
      have hP' : P (b.perform s).2 := later [] List.nil_prefix
      exact ⟨once.mp hP', (rest hP').mp later⟩
    · intro ⟨good, later⟩
      exact ⟨hP, (rest (once.mpr good)).mpr later⟩

/-! ## Runs of a pump -/

/-- Whether a run stops before its next wait. -/
def stopsAt (b : Bench) (waiting : Bool) : Bool := !waiting && b.host.control.isCancelled

theorem value_pumpScript_nil (pump : Nat) (waiting : Bool) (answers : List Answer) (b : Bench) :
    (pumpScript pump waiting answers b []).value = (⟨.finished, answers, []⟩, b) := by
  unfold pumpScript
  split
  · rfl
  · rfl

theorem value_pumpScript_stop (pump : Nat) {waiting : Bool} (answers : List Answer) {b : Bench}
    (cue : Cue) (left : List Cue) (stops : b.stopsAt waiting = true) :
    (pumpScript pump waiting answers b (cue :: left)).value =
      (⟨.finished, answers, cue :: left⟩, b) := by
  unfold stopsAt at stops
  cases cue with
  | refresh now => rw [pumpScript, if_pos stops]; rfl
  | request r => rw [pumpScript, if_pos stops]; rfl

theorem value_pumpScript_refused (pump : Nat) {waiting : Bool} (answers : List Answer) {b : Bench}
    {r : Request} (left : List Cue) (goesOn : b.stopsAt waiting = false)
    (refused : (b.answer r).value.1 = .refused) :
    (pumpScript pump waiting answers b (.request r :: left)).value =
      (⟨.crashed, answers, left⟩, (b.answer r).value.2) := by
  unfold stopsAt at goesOn
  rw [pumpScript, if_neg (by simp [goesOn]), Logged.value_bind]
  dsimp only
  rw [refused]
  rfl

theorem value_pumpScript_answered (pump : Nat) {waiting : Bool} (answers : List Answer) {b : Bench}
    {r : Request} (left : List Cue) (goesOn : b.stopsAt waiting = false)
    (answered : (b.answer r).value.1 ≠ .refused) :
    (pumpScript pump waiting answers b (.request r :: left)).value =
      (pumpScript pump true (answers ++ [(b.answer r).value.1]) (b.answer r).value.2 left).value := by
  unfold stopsAt at goesOn
  rw [pumpScript, if_neg (by simp [goesOn]), Logged.value_bind]
  dsimp only
  split
  next refused => exact absurd refused answered
  next => rfl

theorem value_pumpScript_refresh (pump : Nat) {waiting : Bool} (answers : List Answer) {b : Bench}
    (now : Binary64) (left : List Cue) (goesOn : b.stopsAt waiting = false) :
    (pumpScript pump waiting answers b (.refresh now :: left)).value =
      match (b.tick pump now).value with
      | (.failed e, b) => (b.abort e answers left).value
      | (.crashed, b) => (⟨.crashed, answers, left⟩, b)
      | (_, b) => (pumpScript pump false answers b left).value := by
  unfold stopsAt at goesOn
  rw [pumpScript, if_neg (by simp [goesOn]), Logged.value_bind]
  obtain ⟨t, b'⟩ := (b.tick pump now).value
  cases t <;> rfl

/-- What requests, refreshes and a cancel keep is kept by a run. -/
theorem pumpScript_preserves {P : Bench → Prop} (pump : Nat)
    (request : ∀ b r, P b → P (b.answer r).value.2)
    (refresh : ∀ b now, P b → P (b.tick pump now).value.2)
    (cancel : ∀ b : Bench, P b → P { b with host := b.host.cancel.value })
    (script : List Cue) (waiting : Bool) (answers : List Answer) {b : Bench} (hb : P b) :
    P (pumpScript pump waiting answers b script).value.2 := by
  induction script generalizing waiting answers b with
  | nil => rw [value_pumpScript_nil]; exact hb
  | cons cue left ih =>
    cases stops : b.stopsAt waiting with
    | true => rw [value_pumpScript_stop pump answers cue left stops]; exact hb
    | false =>
      cases cue with
      | request r =>
        by_cases refused : (b.answer r).value.1 = .refused
        · rw [value_pumpScript_refused pump answers left stops refused]
          exact request b r hb
        · rw [value_pumpScript_answered pump answers left stops refused]
          exact ih true _ (request b r hb)
      | refresh now =>
        rw [value_pumpScript_refresh pump answers now left stops]
        have ht := refresh b now hb
        split
        next e b' heq => rw [heq] at ht; exact cancel b' ht
        next b' heq => rw [heq] at ht; exact ht
        next b' _ _ heq => rw [heq] at ht; exact ih false answers ht

/-- What requests, refreshes and a cancel keep is kept by a run, whatever the
size of the display. -/
theorem run_preserves {P : Bench → Prop} (pump : Nat)
    (request : ∀ b r, P b → P (b.answer r).value.2)
    (refresh : ∀ b now, P b → P (b.tick pump now).value.2)
    (cancel : ∀ b : Bench, P b → P { b with host := b.host.cancel.value })
    (script : List Cue) {b : Bench} (hb : P b) : P (b.run pump script).value.2 := by
  unfold run
  dsimp only
  split
  · exact pumpScript_preserves pump request refresh cancel script false [] hb
  · exact cancel b hb

end Bench

end VipHost
