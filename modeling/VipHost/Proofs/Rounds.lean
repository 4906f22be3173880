import VipHost.Proofs.Presenting

/-!
# Runs in rounds

A run goes in rounds.  In each round the pump asks for the next refresh and handles it.  The
requests in front of that refresh are carried out while the pump waits (`Bench.ask`), and
the control is looked at before each round only.

`Bench.Rounds` lists how rounds follow each other and end: the control is stopped, the script
is dry, a draw fails, or something crashes.  A run is these rounds and nothing else
(`Bench.rounds_iff`).
-/

namespace VipHost

/-- A request does not reach outside the memory. -/
def Request.StaysInside : Request → Prop
  | .poke address data => Memory.Inside address data.size
  | .peek address len => Memory.Inside address len
  | _ => True

namespace Bench

/-! ## Asking for a refresh -/

/-- What a pump gets that asks for the next refresh. -/
inductive Reply where
  | refresh (now : Binary64)
  /-- There is no further refresh. -/
  | dry
  /-- A request in front of the refresh was refused. -/
  | crashed

/-- What comes of asking for the next refresh. -/
structure Asked where
  reply : Reply
  /-- The answers to the requests in front of the refresh. -/
  answers : List Answer := []
  /-- The bench after these requests. -/
  bench : Bench
  /-- What is left of the script. -/
  left : List Cue := []

/-- Ask for the next refresh of a script. -/
def ask : Bench → List Cue → Asked
  | b, [] => { reply := .dry, bench := b }
  | b, .refresh now :: left => { reply := .refresh now, bench := b, left }
  | b, .request r :: left =>
    match (b.answer r).value with
    | (.refused, b) => { reply := .crashed, bench := b, left }
    | (a, b) => { b.ask left with answers := a :: (b.ask left).answers }

theorem ask_refused {b : Bench} {r : Request} (left : List Cue)
    (refused : (b.answer r).value.1 = .refused) :
    b.ask (.request r :: left) = { reply := .crashed, bench := (b.answer r).value.2, left } := by
  rw [ask]
  generalize (b.answer r).value = answered at refused
  obtain ⟨a, b'⟩ := answered
  cases refused
  rfl

theorem ask_answered {b : Bench} {r : Request} (left : List Cue)
    (answered : (b.answer r).value.1 ≠ .refused) :
    b.ask (.request r :: left) =
      let rest := (b.answer r).value.2.ask left
      { rest with answers := (b.answer r).value.1 :: rest.answers } := by
  rw [ask]
  split
  next refused => rw [refused] at answered; exact absurd rfl answered
  next a b' _ same => rw [same]

theorem length_left_ask {b : Bench} {script : List Cue} {now : Binary64}
    (next : (b.ask script).reply = .refresh now) : (b.ask script).left.length < script.length := by
  induction script generalizing b with
  | nil => cases next
  | cons cue left ih =>
    cases cue with
    | refresh now' => exact Nat.lt_succ_self _
    | request r =>
      by_cases refused : (b.answer r).value.1 = .refused
      · rw [ask_refused left refused] at next
        cases next
      · rw [ask_answered left refused] at next ⊢
        exact Nat.lt_succ_of_lt (ih next)

/-! ## Rounds -/

/-- The bench with a stopped control. -/
def cancelled (b : Bench) : Bench := { b with host := { b.host with control := .stopped } }

/-- The rounds of a run over a script, and what comes of them. -/
inductive Rounds (pump : Nat) : Bench → List Cue → RunResult × Bench → Prop where
  /-- The control is stopped, and no refresh is asked for. -/
  | stopped {b : Bench} {script : List Cue} (stopped : b.host.control = .stopped) :
      Rounds pump b script (⟨.finished, [], script⟩, b)
  /-- There is no further refresh. -/
  | dry {b : Bench} {script : List Cue} (goesOn : b.host.control ≠ .stopped)
      (dry : (b.ask script).reply = .dry) :
      Rounds pump b script (⟨.finished, (b.ask script).answers, []⟩, (b.ask script).bench)
  /-- The draw fails, and the control is stopped. -/
  | failed {b b' : Bench} {script : List Cue} {now : Binary64} {e : IoError}
      (goesOn : b.host.control ≠ .stopped) (next : (b.ask script).reply = .refresh now)
      (ticked : ((b.ask script).bench.tick pump now).value = (.failed e, b')) :
      Rounds pump b script
        (⟨.failed e, (b.ask script).answers, (b.ask script).left⟩, b'.cancelled)
  /-- The refresh is shown or refused, and another round follows. -/
  | again {b b' : Bench} {script : List Cue} {now : Binary64} {t : Ticked}
      {rest : RunResult × Bench} (goesOn : b.host.control ≠ .stopped)
      (next : (b.ask script).reply = .refresh now)
      (ticked : ((b.ask script).bench.tick pump now).value = (t, b'))
      (handled : t = .refused ∨ ∃ elapsed, t = .shown elapsed)
      (rounds : Rounds pump b' (b.ask script).left rest) :
      Rounds pump b script
        ({ rest.1 with answers := (b.ask script).answers ++ rest.1.answers }, rest.2)
  /-- The display crashes. -/
  | crashed {b b' : Bench} {script : List Cue} {now : Binary64}
      (goesOn : b.host.control ≠ .stopped) (next : (b.ask script).reply = .refresh now)
      (ticked : ((b.ask script).bench.tick pump now).value = (.crashed, b')) :
      Rounds pump b script (⟨.crashed, (b.ask script).answers, (b.ask script).left⟩, b')
  /-- A request is refused while the pump waits. -/
  | refused {b : Bench} {script : List Cue} (goesOn : b.host.control ≠ .stopped)
      (refused : (b.ask script).reply = .crashed) :
      Rounds pump b script
        (⟨.crashed, (b.ask script).answers, (b.ask script).left⟩, (b.ask script).bench)

variable {pump : Nat} {b : Bench} {script : List Cue}

/-- For every script there are rounds. -/
theorem exists_rounds (pump : Nat) (b : Bench) (script : List Cue) :
    ∃ result, Rounds pump b script result := by
  induction size : script.length using Nat.strong_induction_on generalizing b script with
  | _ n ih =>
    by_cases stopped : b.host.control = .stopped
    · exact ⟨_, .stopped stopped⟩
    cases next : (b.ask script).reply with
    | dry => exact ⟨_, .dry stopped next⟩
    | crashed => exact ⟨_, .refused stopped next⟩
    | refresh now =>
      cases ticked : ((b.ask script).bench.tick pump now).value with
      | mk t b' =>
        have shorter : (b.ask script).left.length < n := size ▸ length_left_ask next
        obtain ⟨rest, rounds⟩ := ih _ shorter b' _ rfl
        cases t with
        | refused => exact ⟨_, .again stopped next ticked (.inl rfl) rounds⟩
        | shown elapsed => exact ⟨_, .again stopped next ticked (.inr ⟨elapsed, rfl⟩) rounds⟩
        | failed e => exact ⟨_, .failed stopped next ticked⟩
        | crashed => exact ⟨_, .crashed stopped next ticked⟩

/-! ## Runs -/

theorem value_pumpScript_stopped (pump : Nat) (answers : List Answer)
    (stopped : b.host.control = .stopped) (script : List Cue) :
    (pumpScript pump false answers b script).value = (⟨.finished, answers, script⟩, b) := by
  cases script with
  | nil => exact value_pumpScript_nil pump false answers b
  | cons cue left =>
    have stops : b.stopsAt false = true := by simp [stopsAt, PumpState.isCancelled, stopped]
    exact value_pumpScript_stop pump answers cue left stops

/-- What a pump makes of a script that waits for the next refresh. -/
theorem value_pumpScript_waiting (pump : Nat) (answers : List Answer) (b : Bench)
    (script : List Cue) :
    (pumpScript pump true answers b script).value =
      let asked := b.ask script
      match asked.reply with
      | .dry => (⟨.finished, answers ++ asked.answers, []⟩, asked.bench)
      | .crashed => (⟨.crashed, answers ++ asked.answers, asked.left⟩, asked.bench)
      | .refresh now =>
        match (asked.bench.tick pump now).value with
        | (.failed e, b') => (b'.abort e (answers ++ asked.answers) asked.left).value
        | (.crashed, b') => (⟨.crashed, answers ++ asked.answers, asked.left⟩, b')
        | (_, b') => (pumpScript pump false (answers ++ asked.answers) b' asked.left).value := by
  induction script generalizing b answers with
  | nil => rw [value_pumpScript_nil]; simp [ask]
  | cons cue left ih =>
    cases cue with
    | refresh now =>
      rw [value_pumpScript_refresh pump answers now left rfl]
      cases ticked : (b.tick pump now).value with
      | mk t b' =>
        cases t with
        | refused => simp only [ask, List.append_nil, ticked]
        | shown elapsed => simp only [ask, List.append_nil, ticked]
        | failed e => simp only [ask, List.append_nil, ticked]
        | crashed => simp only [ask, List.append_nil, ticked]
    | request r =>
      by_cases refused : (b.answer r).value.1 = .refused
      · rw [value_pumpScript_refused pump answers left rfl refused, ask_refused left refused]
        simp
      · rw [value_pumpScript_answered pump answers left rfl refused, ih, ask_answered left refused]
        simp only [List.append_assoc, List.singleton_append]

theorem value_abort (b : Bench) (e : IoError) (answers : List Answer) (left : List Cue) :
    (b.abort e answers left).value = (⟨.failed e, answers, left⟩, b.cancelled) := by
  simp only [abort, Host.cancel, Logged.value_bind, Logged.value_pure, PumpState.value_cancel]
  rfl

/-- In a round the pump waits, for it was not stopped before. -/
theorem value_pumpScript_goesOn (pump : Nat) (answers : List Answer)
    (goesOn : b.host.control ≠ .stopped) (script : List Cue) :
    (pumpScript pump false answers b script).value =
      (pumpScript pump true answers b script).value := by
  have waits : b.stopsAt false = false := by simp [stopsAt, PumpState.isCancelled, goesOn]
  exact value_pumpScript_of_not_stops pump answers waits script

/-- What the rounds come to is what the pump makes of the script. -/
theorem Rounds.value_pumpScript {result : RunResult × Bench} (rounds : Rounds pump b script result)
    (answers : List Answer) :
    (pumpScript pump false answers b script).value =
      ({ result.1 with answers := answers ++ result.1.answers }, result.2) := by
  induction rounds generalizing answers with
  | stopped stopped =>
    rw [value_pumpScript_stopped pump answers stopped, List.append_nil]
  | dry goesOn dry =>
    rw [value_pumpScript_goesOn pump answers goesOn, value_pumpScript_waiting]
    simp only [dry]
  | failed goesOn next ticked =>
    rw [value_pumpScript_goesOn pump answers goesOn, value_pumpScript_waiting]
    simp only [next, ticked, value_abort]
  | @again b b' script now t rest goesOn next ticked handled _ ih =>
    rw [value_pumpScript_goesOn pump answers goesOn, value_pumpScript_waiting]
    simp only [next, ticked, ← List.append_assoc]
    rcases handled with rfl | ⟨elapsed, rfl⟩
    · exact ih _
    · exact ih _
  | crashed goesOn next ticked =>
    rw [value_pumpScript_goesOn pump answers goesOn, value_pumpScript_waiting]
    simp only [next, ticked]
  | refused goesOn refused =>
    rw [value_pumpScript_goesOn pump answers goesOn, value_pumpScript_waiting]
    simp only [refused]

/-- A run is its rounds, and nothing else. -/
theorem rounds_iff (fits : b.display.resolution = b.host.session.frameSize)
    (result : RunResult × Bench) :
    Rounds pump b script result ↔ (b.run pump script).value = result := by
  have whole : b.run pump script = pumpScript pump false [] b script := if_pos fits
  have sound {result : RunResult × Bench} (rounds : Rounds pump b script result) :
      (b.run pump script).value = result := by
    rw [whole, rounds.value_pumpScript []]
    rfl
  refine ⟨sound, ?_⟩
  rintro rfl
  obtain ⟨result, rounds⟩ := exists_rounds pump b script
  exact (sound rounds) ▸ rounds

/-! ## Ends -/

theorem ofResult_ne_refused (result : Except HostError Unit) : Answer.ofResult result ≠ .refused := by
  cases result with
  | error e => simp [Answer.ofResult]
  | ok done => simp [Answer.ofResult]

theorem answer_ne_refused {r : Request} (inside : r.StaysInside) (b : Bench) :
    (b.answer r).value.1 ≠ .refused := by
  cases r with
  | load program => exact ofResult_ne_refused _
  | loadFrom source => exact ofResult_ne_refused _
  | openFile path => exact ofResult_ne_refused _
  | loadFile path => exact ofResult_ne_refused _
  | reload =>
    simp only [answer, Logged.value_bind]
    obtain ⟨result, h⟩ := (b.host.reload b.files.read).value
    cases result with
    | error e => simp
    | ok loaded => simp
  | keyboard e now =>
    simp only [answer, Logged.value_bind]
    obtain ⟨asked, hold⟩ := (e.meaning b.hold now).value
    cases asked with
    | none => simp
    | some asked => simp
  | expire now =>
    simp only [answer]
    cases b.hold with
    | none => simp
    | some hold => simp
  | holdPress c now =>
    simp only [answer]
    cases b.hold with
    | none => simp
    | some hold => simp
  | isHeld c =>
    simp only [answer]
    cases b.hold with
    | none => simp
    | some hold => simp
  | writeSnapshot text =>
    simp only [answer, Logged.value_bind]
    obtain ⟨result, h⟩ := (b.host.writeSnapshot text).value
    cases result with
    | error e => simp
    | ok r => simp
  | poke address data =>
    simp only [answer, Memory.write?, if_pos (show Memory.Inside address data.size from inside)]
    simp
  | peek address len =>
    simp only [answer, Memory.read?, if_pos (show Memory.Inside address len from inside)]
    simp
  | _ => intro refused; cases refused

/-- Asking leaves the display alone, and what is left of the script is its end. -/
theorem display_ask (b : Bench) (script : List Cue) : (b.ask script).bench.display = b.display := by
  induction script generalizing b with
  | nil => rfl
  | cons cue left ih =>
    cases cue with
    | refresh now => rfl
    | request r =>
      by_cases refused : (b.answer r).value.1 = .refused
      · rw [ask_refused left refused]
        exact b.display_answer r
      · rw [ask_answered left refused]
        exact (ih _).trans (b.display_answer r)

theorem left_ask_suffix (b : Bench) (script : List Cue) : (b.ask script).left <:+ script := by
  induction script generalizing b with
  | nil => exact List.suffix_rfl
  | cons cue left ih =>
    cases cue with
    | refresh now => exact List.suffix_cons _ left
    | request r =>
      by_cases refused : (b.answer r).value.1 = .refused
      · rw [ask_refused left refused]
        exact List.suffix_cons _ left
      · rw [ask_answered left refused]
        exact (ih _).trans (List.suffix_cons _ left)

theorem ask_ne_crashed (inside : ∀ r, .request r ∈ script → r.StaysInside) (b : Bench) :
    (b.ask script).reply ≠ .crashed := by
  induction script generalizing b with
  | nil => simp [ask]
  | cons cue left ih =>
    cases cue with
    | refresh now => simp [ask]
    | request r =>
      rw [ask_answered left (answer_ne_refused (inside r (.head _)) b)]
      exact ih (fun r' later => inside r' (.tail _ later)) _

theorem conduct_tick (b : Bench) (pump : Nat) (now : Binary64) :
    (b.tick pump now).value.2.display.conduct = b.display.conduct := by
  cases admitted : b.host.control.admits with
  | false => rw [value_tick_refused pump now admitted]
  | true =>
    rw [value_tick_admitted pump now admitted]
    exact b.display.conduct_draw _

theorem tick_ne_crashed (steady : ∀ n, (b.display.conduct n).crashes = false) (pump : Nat)
    (now : Binary64) : (b.tick pump now).value.1 ≠ .crashed := by
  cases admitted : b.host.control.admits with
  | false =>
    rw [value_tick_refused pump now admitted]
    simp
  | true =>
    rw [value_tick_admitted pump now admitted]
    have drawn := Display.not_crashed_draw (steady _) (b.host.session.advanceTo now).value.2.machine.frame
    dsimp only
    cases ended : (b.display.draw (b.host.session.advanceTo now).value.2.machine.frame).1 with
    | shown => simp [Drawn.ticked]
    | failed e => simp [Drawn.ticked]
    | crashed => exact absurd ended drawn

/-- Where nothing crashes, a run ends with a stopped control, a dry script, or a failure that
stops the control. -/
theorem Rounds.ends {result : RunResult × Bench} (rounds : Rounds pump b script result)
    (steady : ∀ n, (b.display.conduct n).crashes = false)
    (inside : ∀ r, .request r ∈ script → r.StaysInside) :
    (result.1.ending = .finished ∧ (result.2.host.control = .stopped ∨ result.1.left = [])) ∨
      ∃ e, result.1.ending = .failed e ∧ result.2.host.control = .stopped := by
  induction rounds with
  | stopped stopped => exact .inl ⟨rfl, .inl stopped⟩
  | dry _ _ => exact .inl ⟨rfl, .inr rfl⟩
  | failed _ _ _ => exact .inr ⟨_, rfl, rfl⟩
  | @again b b' script now t rest _ next ticked _ _ ih =>
    refine ih (fun n => ?_) (fun r later => inside r ((b.left_ask_suffix script).subset later))
    have same := (b.ask script).bench.conduct_tick pump now
    rw [ticked, display_ask] at same
    rw [same]
    exact steady n
  | @crashed b b' script now _ _ ticked =>
    refine absurd (congrArg Prod.fst ticked) (tick_ne_crashed (fun n => ?_) pump now)
    rw [display_ask]
    exact steady n
  | refused _ refused => exact absurd refused (ask_ne_crashed inside _)

/-- A run is repeated refreshing.  Over a display of the wrong size it fails and stops the
control, and does nothing else.  Otherwise it comes to its rounds: for each of them the pump
asks for one refresh and handles it, until the control is stopped before a round, the script
is dry or a draw fails.  A cancel while the pump waits uses up the refresh it waits for, which
is refused. -/
theorem run_is_repeated_refreshing (b : Bench) (pump : Nat) (script : List Cue) :
    let result := (b.run pump script).value
    let asked := b.ask script
    (b.display.resolution ≠ b.host.session.frameSize →
      ∃ e, e.kind = .invalidInput ∧ result = (⟨.failed e, [], script⟩, b.cancelled)) ∧
      (b.display.resolution = b.host.session.frameSize →
        (∀ other, Rounds pump b script other ↔ result = other) ∧
          ((∀ n, (b.display.conduct n).crashes = false) →
            (∀ r, .request r ∈ script → r.StaysInside) →
              (result.1.ending = .finished ∧
                  (result.2.host.control = .stopped ∨ result.1.left = [])) ∨
                ∃ e, result.1.ending = .failed e ∧ result.2.host.control = .stopped) ∧
          (b.host.control ≠ .stopped →
            ∀ now, asked.reply = .refresh now → asked.bench.host.control = .stopped →
              result = (⟨.finished, asked.answers, asked.left⟩, asked.bench))) := by
  intro result asked
  refine ⟨fun mismatch => ?_, fun fits => ⟨rounds_iff fits, fun steady inside => ?_, ?_⟩⟩
  · refine ⟨sizeMismatch b.display.resolution b.host.session.frameSize, rfl, ?_⟩
    have aborted : b.run pump script = b.abort _ [] script := if_neg mismatch
    rw [show result = (b.run pump script).value from rfl, aborted, value_abort]
  · exact ((rounds_iff fits result).mpr rfl).ends steady inside
  · intro goesOn now next stopped
    have waits : asked.bench.host.control.admits = false :=
      (PumpState.admits_eq_false_iff _).mpr (.inr stopped)
    have refused := value_tick_refused pump now waits
    have rounds := Rounds.again goesOn next refused (.inl rfl) (.stopped stopped)
    rw [List.append_nil] at rounds
    exact (rounds_iff fits _).mp rounds

/-- A cancel while the pump waits uses up one refresh, which is not handled. -/
theorem run_is_repeated_refreshing_of_cancel_while_waiting :
    let b : Bench := { (default : Bench) with host := { (default : Host) with control := .running } }
    let first : Binary64 := ⟨0x3ff0000000000000⟩
    let second : Binary64 := ⟨0x4000000000000000⟩
    let script : List Cue := [.request .cancel, .refresh first, .refresh second]
    let result : RunResult × Bench := (⟨.finished, [.nothing], [.refresh second]⟩, b.cancelled)
    b.display.resolution = b.host.session.frameSize ∧ (b.run 0 script).value = result ∧
      Rounds 0 b script result := by
  intro b first second script result
  have fits : b.display.resolution = b.host.session.frameSize := rfl
  obtain ⟨rounds, _, waiting⟩ := (run_is_repeated_refreshing b 0 script).2 fits
  have ran : (b.run 0 script).value = result := waiting (by decide) first rfl rfl
  exact ⟨fits, ran, (rounds result).mpr ran⟩

end Bench

end VipHost
