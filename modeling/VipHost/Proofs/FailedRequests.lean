import VipHost.Proofs.Loading
import VipHost.Proofs.Work

/-!
# Failed requests leave no trace

A request fails when its program does not fit, its reader or file cannot be read
to the end, or its snapshot is no register file (`Bench.failure?`).  It fails in
exactly these cases, and then the bench is the one from before
(`Bench.answer_cases`).

So failed requests can be deleted from the script of a run
(`Bench.value_run_kept`) and from any work (`Bench.trace_workKept`,
`Bench.after_workKept`), and all that is left comes to the same.  In a script a
deleted request may be the one that made the pump wait.  But the control was not
cancelled then and is not by a failed request, so the pump waits all the same
(`Bench.value_pumpScript_of_not_stops`).
-/

namespace VipHost

/-- Whether a request failed. -/
def Answer.isFailed : Answer → Bool
  | .failed _ => true
  | _ => false

/-- Whether a step was a request that failed. -/
def Outcome.isFailed : Outcome → Bool
  | .answered a => a.isFailed
  | _ => false

/-- What came of a run, without the answers of failed requests. -/
def Bench.RunResult.kept (r : Bench.RunResult) : Bench.RunResult :=
  { r with answers := r.answers.filter fun a => !a.isFailed }

/-- What came of a step, without the answers of failed requests. -/
def Outcome.kept : Outcome → Outcome
  | .ran r => .ran r.kept
  | o => o

namespace Bench

/-- The failure of a request, if it meets one. -/
def failure? (b : Bench) : Request → Option HostError
  | .load program => failureOf (fitting program)
  | .loadFrom source => failureOf source.program
  | .openFile path => failureOf (b.files.read.program path)
  | .loadFile path => failureOf (b.files.read.program path)
  | .reload => b.host.programPath.bind fun path => failureOf (b.files.read.program path)
  | .writeSnapshot text => failureOf ((Registers.ofText text).mapError .registers)
  | _ => none
where
  /-- The failure in place of a value. -/
  failureOf {α : Type} : Except HostError α → Option HostError
    | .error e => some e
    | .ok _ => none

/-- A request meets a failure, reports it and changes nothing, or it meets none
and reports none. -/
theorem answer_cases (b : Bench) (r : Request) :
    (∃ e, b.failure? r = some e ∧ (b.answer r).value = (.failed e, b)) ∨
      (b.failure? r = none ∧ (b.answer r).value.1.isFailed = false) := by
  cases r with
  | load program =>
    simp only [answer, failure?, Logged.value_bind, Host.value_load]
    cases fitting program with
    | error e => exact .inl ⟨e, rfl, rfl⟩
    | ok program => exact .inr ⟨rfl, rfl⟩
  | loadFrom source =>
    simp only [answer, failure?, Logged.value_bind, Host.value_loadFrom]
    cases source.program with
    | error e => exact .inl ⟨e, rfl, rfl⟩
    | ok program => exact .inr ⟨rfl, rfl⟩
  | openFile path =>
    simp only [answer, failure?, Logged.value_bind, Host.value_openFile]
    cases b.files.read.program path with
    | error e => exact .inl ⟨e, rfl, rfl⟩
    | ok program => exact .inr ⟨rfl, rfl⟩
  | loadFile path =>
    simp only [answer, failure?, Logged.value_bind, Host.value_loadFile]
    cases b.files.read.program path with
    | error e => exact .inl ⟨e, rfl, rfl⟩
    | ok program => exact .inr ⟨rfl, rfl⟩
  | reload =>
    simp only [answer, failure?, Logged.value_bind]
    cases remembered : b.host.programPath with
    | none =>
      rw [Host.value_reload_none b.host _ remembered]
      exact .inr ⟨rfl, rfl⟩
    | some path =>
      rw [Host.value_reload_some b.host _ remembered, Option.bind_some]
      cases b.files.read.program path with
      | error e => exact .inl ⟨e, rfl, rfl⟩
      | ok program => exact .inr ⟨rfl, rfl⟩
  | writeSnapshot text =>
    simp only [answer, failure?, Logged.value_bind, Host.writeSnapshot]
    cases Registers.ofText text with
    | error t => exact .inl ⟨.registers t, rfl, rfl⟩
    | ok r => exact .inr ⟨rfl, rfl⟩
  | keyboard e now =>
    refine .inr ⟨rfl, ?_⟩
    simp only [answer, Logged.value_bind]
    cases (e.meaning b.hold now).value.1 with
    | none => rfl
    | some asked => rfl
  | expire now =>
    refine .inr ⟨rfl, ?_⟩
    simp only [answer]
    cases b.hold with
    | none => rfl
    | some hold => rfl
  | holdPress c now =>
    refine .inr ⟨rfl, ?_⟩
    simp only [answer]
    cases b.hold with
    | none => rfl
    | some hold => rfl
  | isHeld c =>
    refine .inr ⟨rfl, ?_⟩
    simp only [answer, Logged.value_pure]
    cases b.hold with
    | none => rfl
    | some hold => rfl
  | poke start data =>
    refine .inr ⟨rfl, ?_⟩
    simp only [answer]
    cases b.host.session.machine.memory.write? start data with
    | none => rfl
    | some memory => rfl
  | peek start len =>
    refine .inr ⟨rfl, ?_⟩
    simp only [answer, Logged.value_pure]
    cases b.host.session.machine.memory.read? start len with
    | none => rfl
    | some bytes => rfl
  | reset => exact .inr ⟨rfl, rfl⟩
  | writeFile path contents => exact .inr ⟨rfl, rfl⟩
  | removeFile path => exact .inr ⟨rfl, rfl⟩
  | start => exact .inr ⟨rfl, rfl⟩
  | cancel => exact .inr ⟨rfl, rfl⟩
  | isCancelled => exact .inr ⟨rfl, rfl⟩
  | key c state => exact .inr ⟨rfl, rfl⟩
  | layout => exact .inr ⟨rfl, rfl⟩
  | event e => exact .inr ⟨rfl, rfl⟩
  | holdClear => exact .inr ⟨rfl, rfl⟩
  | readRegisters => exact .inr ⟨rfl, rfl⟩
  | writeRegisters r => exact .inr ⟨rfl, rfl⟩
  | dumpRegisters => exact .inr ⟨rfl, rfl⟩
  | invalidate => exact .inr ⟨rfl, rfl⟩
  | advanceTo now => exact .inr ⟨rfl, rfl⟩
  | frame => exact .inr ⟨rfl, rfl⟩
  | frameSize => exact .inr ⟨rfl, rfl⟩
  | seed => exact .inr ⟨rfl, rfl⟩

/-- A request reports exactly the failure it meets. -/
theorem answer_failed_iff (b : Bench) (r : Request) (e : HostError) :
    (b.answer r).value.1 = .failed e ↔ b.failure? r = some e := by
  obtain ⟨e', meets, failed⟩ | ⟨meets, notFailed⟩ := b.answer_cases r
  · rw [meets, failed]
    constructor
    · intro h
      cases h
      rfl
    · intro h
      cases h
      rfl
  · constructor
    · intro h
      rw [h] at notFailed
      cases notFailed
    · intro h
      rw [meets] at h
      cases h

/-- A request that failed changed nothing. -/
theorem answer_of_isFailed {b : Bench} {r : Request}
    (failed : (b.answer r).value.1.isFailed = true) : (b.answer r).value.2 = b := by
  obtain ⟨e, _, same⟩ | ⟨_, notFailed⟩ := b.answer_cases r
  · rw [same]
  · rw [notFailed] at failed
    cases failed

/-! ## Deleting failed requests from a script -/

/-- The part of a script that does not fail, as a pump goes through it; what the
pump does not get to is left alone. -/
def pumpScriptKept (pump : Nat) : Bool → Bench → List Cue → List Cue
  | _, _, [] => []
  | waiting, b, .request r :: left =>
    if b.stopsAt waiting then .request r :: left
    else
      match (b.answer r).value.1 with
      | .refused => .request r :: left
      | .failed _ => pumpScriptKept pump true (b.answer r).value.2 left
      | _ => .request r :: pumpScriptKept pump true (b.answer r).value.2 left
  | waiting, b, .refresh now :: left =>
    if b.stopsAt waiting then .refresh now :: left
    else
      match (b.tick pump now).value.1 with
      | .failed _ => .refresh now :: left
      | .crashed => .refresh now :: left
      | _ => .refresh now :: pumpScriptKept pump false (b.tick pump now).value.2 left

/-- The part of a script that does not fail in a run by one of the pumps. -/
def scriptKept (b : Bench) (pump : Nat) (script : List Cue) : List Cue :=
  if b.display.resolution = b.host.session.frameSize then pumpScriptKept pump false b script
  else script

/-- A pump that does not stop goes through the script as if it were already
waiting. -/
theorem value_pumpScript_of_not_stops (pump : Nat) {waiting : Bool} (answers : List Answer)
    {b : Bench} (goesOn : b.stopsAt waiting = false) (script : List Cue) :
    (pumpScript pump waiting answers b script).value =
      (pumpScript pump true answers b script).value := by
  have waits : b.stopsAt true = false := rfl
  cases script with
  | nil => rw [value_pumpScript_nil, value_pumpScript_nil]
  | cons cue left =>
    cases cue with
    | request r =>
      by_cases refused : (b.answer r).value.1 = .refused
      · rw [value_pumpScript_refused pump answers left goesOn refused,
          value_pumpScript_refused pump answers left waits refused]
      · rw [value_pumpScript_answered pump answers left goesOn refused,
          value_pumpScript_answered pump answers left waits refused]
    | refresh now =>
      rw [value_pumpScript_refresh pump answers now left goesOn,
        value_pumpScript_refresh pump answers now left waits]

/-- Without its failed requests a script comes to the same. -/
theorem value_pumpScript_kept (pump : Nat) (script : List Cue) (waiting : Bool)
    (answers : List Answer) (b : Bench) :
    (pumpScript pump waiting (answers.filter fun a => !a.isFailed) b
        (pumpScriptKept pump waiting b script)).value =
      (pumpScript pump waiting answers b script).value.map RunResult.kept id := by
  induction script generalizing waiting answers b with
  | nil =>
    rw [pumpScriptKept, value_pumpScript_nil, value_pumpScript_nil]
    rfl
  | cons cue left ih =>
    cases stops : b.stopsAt waiting with
    | true =>
      -- the pump does not get to the script, and so nothing is deleted
      have all : pumpScriptKept pump waiting b (cue :: left) = cue :: left := by
        cases cue with
        | request r => rw [pumpScriptKept, if_pos stops]
        | refresh now => rw [pumpScriptKept, if_pos stops]
      rw [all, value_pumpScript_stop pump _ cue left stops,
        value_pumpScript_stop pump answers cue left stops]
      rfl
    | false =>
      cases cue with
      | request r =>
        rw [pumpScriptKept, if_neg (by simp [stops])]
        split
        next refused =>
          rw [value_pumpScript_refused pump _ left stops refused,
            value_pumpScript_refused pump answers left stops refused]
          rfl
        next e failed =>
          have notRefused : (b.answer r).value.1 ≠ .refused := by
            rw [failed]
            intro h
            cases h
          have same : (b.answer r).value.2 = b := answer_of_isFailed (by rw [failed]; rfl)
          -- with the request the pump waits for what is left, without it it may not wait yet
          rw [value_pumpScript_answered pump answers left stops notRefused, ← ih, same,
            value_pumpScript_of_not_stops pump _ stops, failed]
          simp [Answer.isFailed]
        next notRefused notFailed =>
          have succeeded : (b.answer r).value.1.isFailed = false := by
            cases answered : (b.answer r).value.1 <;>
              first | rfl | exact absurd answered (notFailed _)
          rw [value_pumpScript_answered pump (answers.filter fun a => !a.isFailed) _ stops notRefused,
            value_pumpScript_answered pump answers left stops notRefused, ← ih]
          simp [succeeded]
      | refresh now =>
        rw [pumpScriptKept, if_neg (by simp [stops]),
          value_pumpScript_refresh pump answers now left stops]
        cases ticked : (b.tick pump now).value with
        | mk t b' =>
          cases t with
          | failed e =>
            rw [value_pumpScript_refresh pump _ now left stops, ticked]
            rfl
          | crashed =>
            rw [value_pumpScript_refresh pump _ now left stops, ticked]
            rfl
          | shown elapsed =>
            dsimp only
            rw [value_pumpScript_refresh pump _ now _ stops, ticked]
            exact ih false answers b'
          | refused =>
            dsimp only
            rw [value_pumpScript_refresh pump _ now _ stops, ticked]
            exact ih false answers b'

/-- Without its failed requests a run comes to the same. -/
theorem value_run_kept (b : Bench) (pump : Nat) (script : List Cue) :
    (b.run pump (b.scriptKept pump script)).value =
      (b.run pump script).value.map RunResult.kept id := by
  unfold run scriptKept
  dsimp only
  split
  · exact value_pumpScript_kept pump script false [] b
  · rfl

/-! ## Deleting failed requests from some work -/

/-- A step without its failed requests. -/
def stepKept (b : Bench) : Step → Step
  | .run pump script => .run pump (b.scriptKept pump script)
  | s => s

/-- Some work without its failed requests. -/
def workKept : Bench → List Step → List Step
  | _, [] => []
  | b, s :: steps =>
    if (b.perform s).1.isFailed then (b.perform s).2.workKept steps
    else b.stepKept s :: (b.perform s).2.workKept steps

theorem perform_stepKept (b : Bench) (s : Step) :
    b.perform (b.stepKept s) = (b.perform s).map Outcome.kept id := by
  cases s with
  | request r => rfl
  | refresh pump now => rfl
  | run pump script =>
    simp only [stepKept, perform, value_run_kept]
    rfl
  | addPump => rfl
  | setDisplay d => rfl

theorem perform_of_isFailed {b : Bench} {s : Step} (failed : (b.perform s).1.isFailed = true) :
    (b.perform s).2 = b := by
  cases s with
  | request r => exact answer_of_isFailed failed
  | refresh pump now => cases failed
  | run pump script => cases failed
  | addPump => cases failed
  | setDisplay d => cases failed

/-- Without its failed requests some work comes to the same, step by step. -/
theorem trace_workKept (b : Bench) (steps : List Step) :
    (b.trace (b.workKept steps)).map (fun t => (t.outcome, t.bench)) =
      ((b.trace steps).filter fun t => !t.outcome.isFailed).map
        fun t => (t.outcome.kept, t.bench) := by
  induction steps generalizing b with
  | nil => rfl
  | cons s steps ih =>
    cases failed : (b.perform s).1.isFailed with
    | true =>
      rw [workKept, if_pos failed, trace, List.filter_cons_of_neg (by simp [failed]),
        perform_of_isFailed failed]
      exact ih b
    | false =>
      rw [workKept, if_neg (by simp [failed]), trace, trace,
        List.filter_cons_of_pos (by simp [failed]), perform_stepKept]
      exact congrArg (List.cons _) (ih (b.perform s).2)

/-- Without its failed requests some work leaves the same bench. -/
theorem after_workKept (b : Bench) (steps : List Step) :
    b.after (b.workKept steps) = b.after steps := by
  induction steps generalizing b with
  | nil => rfl
  | cons s steps ih =>
    cases failed : (b.perform s).1.isFailed with
    | true =>
      rw [workKept, if_pos failed, after_cons, perform_of_isFailed failed]
      exact ih b
    | false =>
      rw [workKept, if_neg (by simp [failed]), after_cons, after_cons, perform_stepKept]
      exact ih (b.perform s).2

/-- Failed requests leave no trace.  A request fails exactly when it meets a
failure, and changes nothing then.  Every step of some work, and every step of
the scripts run in it, comes to the same when the failed requests are deleted,
and the bench in the end is the same. -/
theorem failed_requests_leave_no_trace (b : Bench) :
    (∀ r e, (b.answer r).value.1 = .failed e ↔ b.failure? r = some e) ∧
      (∀ r e, (b.answer r).value.1 = .failed e → (b.answer r).value.2 = b) ∧
      (∀ pump script,
        (b.run pump (b.scriptKept pump script)).value =
          (b.run pump script).value.map RunResult.kept id) ∧
      ∀ steps,
        (b.trace (b.workKept steps)).map (fun t => (t.outcome, t.bench)) =
            (((b.trace steps).filter fun t => !t.outcome.isFailed).map
              fun t => (t.outcome.kept, t.bench)) ∧
          b.after (b.workKept steps) = b.after steps := by
  refine ⟨b.answer_failed_iff, ?_, b.value_run_kept, ?_⟩
  · intro r e failed
    exact answer_of_isFailed (by rw [failed]; rfl)
  · intro steps
    exact ⟨b.trace_workKept steps, b.after_workKept steps⟩

/-- A program one byte too long is not loaded, and leaves no trace. -/
theorem failed_requests_leave_no_trace_of_oversized :
    let b : Bench := default
    let program : Bytes := Array.replicate 3233 0
    let e : HostError := .oversized ⟨3233, 3232⟩
    (b.answer (.load program)).value.1 = .failed e ∧ (b.answer (.load program)).value.2 = b := by
  intro b program e
  obtain ⟨reports, keeps, _⟩ := failed_requests_leave_no_trace b
  have meets : b.failure? (.load program) = some e := by
    simp only [failure?, fitting, program, Array.size_replicate]
    rfl
  have failed := (reports (.load program) e).mpr meets
  exact ⟨failed, keeps _ e failed⟩

end Bench

end VipHost
