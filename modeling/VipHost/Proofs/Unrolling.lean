import VipHost.Proofs.Work

/-!
# Runs, cue by cue

A run of a pump is one step of work, but the requests and refreshes in it are
steps as well.  `Bench.unrolled` is a step with its run unrolled: the cues it
used up, one after the other, and a cancel at the end if the run failed.  It is
read off the result of the run, and it leaves the same bench
(`Bench.after_unrolled`).  A run fails in two ways only: the display has another
size than the picture, or the last cue is a refresh whose draw failed
(`Bench.run_failed`).

With all runs unrolled (`Bench.unrolledAll`) some work is a list of single steps
(`Step.isSingle`).  What is proved of these covers every refresh and every
request, also those inside runs.
-/

namespace VipHost

/-- A step that is not a run. -/
def Step.isSingle : Step → Bool
  | .run _ _ => false
  | _ => true

namespace Bench

/-- A cue as a step of its own. -/
def Cue.step (pump : Nat) : Cue → Step
  | .refresh now => .refresh pump now
  | .request r => .request r

/-- What is left to do when a run ends: one that failed is cancelled. -/
def RunEnd.steps : RunEnd → List Step
  | .failed _ => [.request .cancel]
  | _ => []

/-- The cues that a run used up. -/
def usedCues (b : Bench) (pump : Nat) (script : List Cue) : List Cue :=
  script.take (script.length - (b.run pump script).value.1.left.length)

/-- A step with its run unrolled. -/
def unrolled (b : Bench) : Step → List Step
  | .run pump script =>
    (b.usedCues pump script).map (Cue.step pump) ++ (b.run pump script).value.1.ending.steps
  | s => [s]

/-- Some work with all its runs unrolled. -/
def unrolledAll : Bench → List Step → List Step
  | _, [] => []
  | b, s :: steps => b.unrolled s ++ (b.perform s).2.unrolledAll steps

theorem after_append (b : Bench) (first second : List Step) :
    b.after (first ++ second) = (b.after first).after second := by
  induction first generalizing b with
  | nil => rfl
  | cons s first ih => exact ih (b.perform s).2

/-- What a pump made of a script: it used up some cues, and came to the same as
these one by one. -/
structure Used (pump : Nat) (b : Bench) (script used : List Cue) (result : RunResult × Bench) :
    Prop where
  /-- The cues used up are the first of the script. -/
  split : script = used ++ result.1.left
  /-- They leave the same bench. -/
  same : result.2 = b.after (used.map (Cue.step pump) ++ result.1.ending.steps)
  /-- A failure is that of the last cue. -/
  failed : ∀ e, result.1.ending = .failed e →
    ∃ before now, used = before ++ [.refresh now] ∧
      ((b.after (before.map (Cue.step pump))).tick pump now).value.1 = .failed e

theorem Used.none {pump : Nat} {b : Bench} {script : List Cue} (answers : List Answer) :
    Used pump b script [] (⟨.finished, answers, script⟩, b) where
  split := rfl
  same := rfl
  failed := by
    intro e ended
    cases ended

/-- One more cue in front. -/
theorem Used.cons {pump : Nat} {b : Bench} {cue : Cue} {script used : List Cue}
    {result : RunResult × Bench}
    (rest : Used pump (b.perform (cue.step pump)).2 script used result) :
    Used pump b (cue :: script) (cue :: used) result where
  split := by rw [List.cons_append, ← rest.split]
  same := rest.same
  failed := by
    intro e ended
    obtain ⟨before, now, last, failed⟩ := rest.failed e ended
    exact ⟨cue :: before, now, by rw [last]; rfl, failed⟩

theorem used_pumpScript (pump : Nat) (script : List Cue) (waiting : Bool) (answers : List Answer)
    (b : Bench) :
    ∃ used, Used pump b script used (pumpScript pump waiting answers b script).value := by
  induction script generalizing waiting answers b with
  | nil => exact ⟨[], value_pumpScript_nil pump waiting answers b ▸ .none answers⟩
  | cons cue left ih =>
    -- a run that stops here leaves the cue, every other outcome uses it up
    cases stops : b.stopsAt waiting with
    | true => exact ⟨[], value_pumpScript_stop pump answers cue left stops ▸ .none answers⟩
    | false =>
      cases cue with
      | request r =>
        by_cases refused : (b.answer r).value.1 = .refused
        · rw [value_pumpScript_refused pump answers left stops refused]
          refine ⟨[.request r], rfl, rfl, ?_⟩
          intro e ended
          cases ended
        · rw [value_pumpScript_answered pump answers left stops refused]
          obtain ⟨used, rest⟩ := ih true (answers ++ [(b.answer r).value.1]) (b.answer r).value.2
          exact ⟨.request r :: used, rest.cons⟩
      | refresh now =>
        rw [value_pumpScript_refresh pump answers now left stops]
        have done : (b.perform (Cue.step pump (.refresh now))).2 = (b.tick pump now).value.2 := rfl
        cases ticked : (b.tick pump now).value with
        | mk t b' =>
          rw [ticked] at done
          cases t with
          | failed e =>
            refine ⟨[.refresh now], rfl, ?_, ?_⟩
            · show (b'.perform (.request .cancel)).2 =
                (b.perform (Cue.step pump (.refresh now))).2.after [.request .cancel]
              rw [done]
              rfl
            · intro e' ended
              cases ended
              exact ⟨[], now, rfl, by rw [List.map_nil, after_nil, ticked]⟩
          | crashed =>
            refine ⟨[.refresh now], rfl, done.symm, ?_⟩
            intro e ended
            cases ended
          | shown elapsed =>
            obtain ⟨used, rest⟩ := ih false answers b'
            exact ⟨.refresh now :: used, .cons (done ▸ rest)⟩
          | refused =>
            obtain ⟨used, rest⟩ := ih false answers b'
            exact ⟨.refresh now :: used, .cons (done ▸ rest)⟩

theorem Used.eq_take {pump : Nat} {b : Bench} {script used : List Cue}
    {result : RunResult × Bench} (made : Used pump b script used result) :
    script.take (script.length - result.1.left.length) = used := by
  rw [made.split, List.length_append, Nat.add_sub_cancel, List.take_left]

/-- A run over a display of the wrong size uses up nothing. -/
theorem value_run_mismatch {b : Bench} (pump : Nat) (script : List Cue)
    (mismatch : b.display.resolution ≠ b.host.session.frameSize) :
    (b.run pump script).value =
      (⟨.failed (sizeMismatch b.display.resolution b.host.session.frameSize), [], script⟩,
        (b.perform (.request .cancel)).2) := by
  rw [run, if_neg mismatch]
  rfl

theorem used_run {b : Bench} (pump : Nat) (script : List Cue)
    (fits : b.display.resolution = b.host.session.frameSize) :
    Used pump b script (b.usedCues pump script) (b.run pump script).value := by
  have whole : b.run pump script = pumpScript pump false [] b script := if_pos fits
  obtain ⟨used, made⟩ := used_pumpScript pump script false [] b
  rw [← whole] at made
  rw [usedCues, made.eq_take]
  exact made

/-- A step leaves the same bench as the steps it is unrolled to. -/
theorem after_unrolled (b : Bench) (s : Step) : b.after (b.unrolled s) = (b.perform s).2 := by
  cases s with
  | run pump script =>
    by_cases fits : b.display.resolution = b.host.session.frameSize
    · exact (used_run pump script fits).same.symm
    · simp only [unrolled, usedCues, perform, value_run_mismatch pump script fits, Nat.sub_self,
        List.take_zero, List.map_nil, List.nil_append]
      rfl
  | request r => rfl
  | refresh pump now => rfl
  | addPump => rfl
  | setDisplay d => rfl

/-- Some work leaves the same bench when all runs are unrolled. -/
theorem after_unrolledAll (b : Bench) (steps : List Step) :
    b.after (b.unrolledAll steps) = b.after steps := by
  induction steps generalizing b with
  | nil => rfl
  | cons s steps ih => rw [unrolledAll, after_append, after_unrolled, ih, after_cons]

/-- A run fails only by a display of the wrong size, and then uses up nothing, or
by a failed draw, and then that refresh is the last cue used up. -/
theorem run_failed {b : Bench} {pump : Nat} {script : List Cue} {e : IoError}
    (failed : (b.run pump script).value.1.ending = .failed e) :
    (b.display.resolution ≠ b.host.session.frameSize ∧ b.usedCues pump script = []) ∨
      ∃ before now, b.usedCues pump script = before ++ [.refresh now] ∧
        ((b.after (before.map (Cue.step pump))).tick pump now).value.1 = .failed e := by
  by_cases fits : b.display.resolution = b.host.session.frameSize
  · exact .inr ((used_run pump script fits).failed e failed)
  · refine .inl ⟨fits, ?_⟩
    rw [usedCues, value_run_mismatch pump script fits, Nat.sub_self, List.take_zero]

/-! ## Single steps -/

theorem isSingle_unrolled {b : Bench} {s t : Step} (part : t ∈ b.unrolled s) :
    t.isSingle = true := by
  cases s with
  | run pump script =>
    rw [unrolled, List.mem_append, List.mem_map] at part
    obtain ⟨cue, _, rfl⟩ | last := part
    · cases cue with
      | refresh now => rfl
      | request r => rfl
    · cases ended : (b.run pump script).value.1.ending with
      | failed e =>
        rw [ended] at last
        obtain rfl := List.mem_singleton.mp last
        rfl
      | finished =>
        rw [ended] at last
        cases last
      | crashed =>
        rw [ended] at last
        cases last
  | request r => exact List.mem_singleton.mp part ▸ rfl
  | refresh pump now => exact List.mem_singleton.mp part ▸ rfl
  | addPump => exact List.mem_singleton.mp part ▸ rfl
  | setDisplay d => exact List.mem_singleton.mp part ▸ rfl

theorem isSingle_unrolledAll {b : Bench} {steps : List Step} {t : Step}
    (part : t ∈ b.unrolledAll steps) : t.isSingle = true := by
  induction steps generalizing b with
  | nil => cases part
  | cons s steps ih =>
    rw [unrolledAll, List.mem_append] at part
    obtain here | later := part
    · exact isSingle_unrolled here
    · exact ih later

end Bench

end VipHost
