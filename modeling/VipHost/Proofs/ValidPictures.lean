import VipHost.Proofs.Presenting

/-!
# When there is a picture

A session gives out its picture only after an advance, and no longer once the program is
replaced or the session invalidated.  The flag for this, the clock and the picture are three
places, and every step moves them together: an advance renews all of them
(`Bench.frame?_advances`), a cut takes back the flag and the clock (`Bench.frame?_cutsOff`), and
any other step leaves all of them alone (`Bench.frame?_untouched`).

So the last step that advances or cuts says what there is to see (`Bench.frame?_cases`).
-/

namespace VipHost

/-! ## Changes of a session -/

namespace Session

theorem change_unmarked (s : Session) {c : Change} (unmarked : c.mark? = none) :
    (s.change c).frame? = s.frame? ∧ (s.change c).clock = s.clock := by
  cases c with
  | load program =>
    by_cases oversized : Memory.programCapacity < program.size
    · rw [change, value_load_of_oversized s oversized]
      exact ⟨rfl, rfl⟩
    · rw [Change.mark?, if_neg oversized] at unmarked
      cases unmarked
  | reset => cases unmarked
  | invalidate => cases unmarked
  | advance now => cases unmarked
  | key k state => exact ⟨rfl, rfl⟩
  | registers r => exact ⟨rfl, rfl⟩
  | poke address data =>
    rw [change, poke]
    cases s.machine.memory.write? address data with
    | none => exact ⟨rfl, rfl⟩
    | some memory => exact ⟨rfl, rfl⟩

theorem change_cut (s : Session) {c : Change} (cut : c.mark? = some .cut) :
    (s.change c).frame? = none ∧ (s.change c).clock = {} := by
  cases c with
  | load program =>
    by_cases oversized : Memory.programCapacity < program.size
    · rw [Change.mark?, if_pos oversized] at cut
      cases cut
    · rw [change, value_load_of_fits s (Nat.not_lt.mp oversized)]
      exact ⟨rfl, rfl⟩
  | reset =>
    rw [change, value_reset]
    exact ⟨rfl, rfl⟩
  | invalidate => exact ⟨rfl, rfl⟩
  | advance now => cases cut
  | key k state => cases cut
  | registers r => cases cut
  | poke address data => cases cut

theorem changeAll_unmarked (s : Session) {cs : List Change}
    (unmarked : cs.filterMap Change.mark? = []) :
    (s.changeAll cs).frame? = s.frame? ∧ (s.changeAll cs).clock = s.clock := by
  induction cs generalizing s with
  | nil => exact ⟨rfl, rfl⟩
  | cons c cs ih =>
    rw [List.filterMap_eq_nil_iff] at unmarked
    obtain ⟨frame, clock⟩ := s.change_unmarked (unmarked c (.head _))
    obtain ⟨frame', clock'⟩ := ih (s.change c)
      (List.filterMap_eq_nil_iff.mpr fun c' later => unmarked c' (.tail _ later))
    exact ⟨frame'.trans frame, clock'.trans clock⟩

/-- After some changes of which one cuts there is no picture and no time. -/
theorem changeAll_cut (s : Session) {cs : List Change}
    (cut : cs.filterMap Change.mark? = [.cut]) :
    (s.changeAll cs).frame? = none ∧ (s.changeAll cs).clock = {} := by
  obtain ⟨before, c, later, rfl, _, mark, quiet⟩ := List.filterMap_eq_cons_iff.mp cut
  rw [changeAll_append, changeAll_cons]
  obtain ⟨frame, clock⟩ := (s.changeAll before).change_cut mark
  obtain ⟨frame', clock'⟩ := ((s.changeAll before).change c).changeAll_unmarked quiet
  exact ⟨frame'.trans frame, clock'.trans clock⟩

end Session

namespace Bench

/-! ## Steps that matter -/

/-- The steps that advance the machine. -/
inductive Advances (b : Bench) : Step → Prop where
  | request (now : Binary64) : Advances b (.request (.advanceTo now))
  | refresh (pump : Nat) (now : Binary64) (admitted : b.host.control.admits = true) :
      Advances b (.refresh pump now)

/-- A step is a request that cuts. -/
def CutsOff (b : Bench) (s : Step) : Prop := ∃ r, s = .request r ∧ b.Cuts r

/-- A step that advances or cuts. -/
def Touches (b : Bench) (s : Step) : Prop := b.Advances s ∨ b.CutsOff s

/-- After an advance the picture shows the display page of the memory it found. -/
theorem frame?_advances {b : Bench} {s : Step} (advances : b.Advances s) :
    ∃ f : Frame, (b.perform s).2.host.session.frame? = some f ∧
      f.Shows b.host.session.machine.memory := by
  cases advances with
  | request now => exact ⟨_, rfl, b.host.session.shows_advanceTo now⟩
  | refresh pump now admitted =>
    obtain ⟨_, advanced, _⟩ := perform_refresh_admitted pump now admitted
    rw [advanced]
    exact ⟨_, rfl, b.host.session.shows_advanceTo now⟩

/-- After a cut there is no picture and no time. -/
theorem frame?_cutsOff {b : Bench} {s : Step} (cuts : b.CutsOff s) :
    (b.perform s).2.host.session.frame? = none ∧ (b.perform s).2.host.session.clock = {} := by
  obtain ⟨r, rfl, cuts⟩ := cuts
  have marked := b.marked r
  generalize left : b.marks (.request r) = marks at marked
  cases marked with
  | cut _ =>
    rw [session_perform rfl]
    exact b.host.session.changeAll_cut left
  | advanced now => cases cuts with | load loads _ => cases loads
  | none _ noCut => exact absurd cuts noCut

theorem marks_of_not_touches {b : Bench} {s : Step} (single : s.isSingle = true)
    (untouched : ¬ b.Touches s) : b.marks s = [] := by
  cases s with
  | request r =>
    have marked := b.marked r
    generalize b.marks (.request r) = marks at marked
    cases marked with
    | advanced now => exact absurd (.inl (.request now)) untouched
    | cut cuts => exact absurd (.inr ⟨r, rfl, cuts⟩) untouched
    | none _ _ => rfl
  | refresh pump now =>
    rw [marks_refresh, if_neg fun admitted => untouched (.inl (.refresh pump now admitted))]
  | run pump script => cases single
  | addPump => rfl
  | setDisplay d => rfl

/-- Any other step leaves the picture and the time alone. -/
theorem frame?_untouched {b : Bench} {s : Step} (single : s.isSingle = true)
    (untouched : ¬ b.Touches s) :
    (b.perform s).2.host.session.frame? = b.host.session.frame? ∧
      (b.perform s).2.host.session.clock = b.host.session.clock := by
  rw [session_perform single]
  exact b.host.session.changeAll_unmarked (marks_of_not_touches single untouched)

/-! ## The last step that matters -/

theorem frame?_after {steps : List Step} (single : ∀ s ∈ steps, s.isSingle = true) {b : Bench}
    (untouched : Never Touches b steps) :
    (b.after steps).host.session.frame? = b.host.session.frame? ∧
      (b.after steps).host.session.clock = b.host.session.clock := by
  induction steps generalizing b with
  | nil => exact ⟨rfl, rfl⟩
  | cons s steps ih =>
    obtain ⟨now, later⟩ := never_cons.mp untouched
    obtain ⟨frame, clock⟩ := frame?_untouched (single s (.head _)) now
    obtain ⟨frame', clock'⟩ := ih (fun t part => single t (.tail _ part)) later
    exact ⟨frame'.trans frame, clock'.trans clock⟩

/-- A picture stays valid until a cut. -/
theorem frame?_isSome_after {steps : List Step} (single : ∀ s ∈ steps, s.isSingle = true)
    {b : Bench} (uncut : Never CutsOff b steps) (valid : b.host.session.frame?.isSome = true) :
    (b.after steps).host.session.frame?.isSome = true := by
  induction steps generalizing b with
  | nil => exact valid
  | cons s steps ih =>
    obtain ⟨now, later⟩ := never_cons.mp uncut
    refine ih (fun t part => single t (.tail _ part)) later ?_
    by_cases advances : b.Advances s
    · obtain ⟨f, frame, _⟩ := frame?_advances advances
      rw [frame]
      rfl
    · have untouched : ¬ b.Touches s := fun touches => touches.elim advances now
      rw [(frame?_untouched (single s (.head _)) untouched).1]
      exact valid

/-- What there is to see after some work.  Either no step of it mattered or the last one that
did was a cut, and then there is no picture and no time; or it was an advance, and then the
picture shows the memory which that advance found. -/
theorem frame?_cases {b : Bench} {steps : List Step} (single : ∀ s ∈ steps, s.isSingle = true)
    (fresh : b.host.session.frame? = none ∧ b.host.session.clock = {}) :
    ((b.after steps).host.session.frame? = none ∧ (b.after steps).host.session.clock = {}) ∨
      ∃ early s late f, steps = early ++ s :: late ∧ (b.after early).Advances s ∧
        Never Touches ((b.after early).perform s).2 late ∧
        (b.after steps).host.session.frame? = some f ∧
        f.Shows (b.after early).host.session.machine.memory := by
  rcases never_or_last Touches b steps with never | ⟨early, s, late, rfl, touches, never⟩
  · obtain ⟨frame, clock⟩ := frame?_after single never
    exact .inl ⟨frame.trans fresh.1, clock.trans fresh.2⟩
  · obtain ⟨frame, clock⟩ := frame?_after (fun t part => single t (by simp [part])) never
    rw [after_append, after_cons, frame, clock]
    rcases touches with advances | cuts
    · obtain ⟨f, renewed, shows⟩ := frame?_advances advances
      exact .inr ⟨early, s, late, f, rfl, advances, never, renewed, shows⟩
    · exact .inl (frame?_cutsOff cuts)

/-- When there is a picture, and which.  Take a fresh session, any work with its runs
unrolled, and any point in it.  There is a picture exactly if an advance was made that no cut
came after.  While there is none, the next advance only sets the baseline and no time was
handed out.  And a picture has only dark and lit pixels, and shows the display page as the
latest advance found it, whatever was written to the memory later. -/
theorem picture_is_of_latest_advance (w : Bench) (seed : UInt64) (steps : List Step) :
    let b := w.withSession (.start seed)
    let flat := b.unrolledAll steps
    b.after flat = b.after steps ∧
      ∀ before, before <+: flat →
        let session := (b.after before).host.session
        (session.frame?.isSome = true ↔
          ∃ early s late, before = early ++ s :: late ∧ (b.after early).Advances s ∧
            Never CutsOff ((b.after early).perform s).2 late) ∧
          (session.frame? = none → session.clock.isPending = true ∧ session.clock.total = 0) ∧
          ∀ f, session.frame? = some f →
            f.toList.length = 64 * 32 ∧ (∀ pixel ∈ f.toList, pixel = 0x00 ∨ pixel = 0xff) ∧
              ∃ early s late, before = early ++ s :: late ∧ (b.after early).Advances s ∧
                Never Advances ((b.after early).perform s).2 late ∧
                f.Shows (b.after early).host.session.machine.memory := by
  intro b flat
  refine ⟨b.after_unrolledAll steps, ?_⟩
  intro before initial session
  have single : ∀ s ∈ before, s.isSingle = true :=
    fun s part => isSingle_unrolledAll (initial.subset part)
  have seen := frame?_cases (b := b) single ⟨rfl, rfl⟩
  refine ⟨⟨fun valid => ?_, ?_⟩, fun none => ?_, fun f here => ?_⟩
  · rcases seen with ⟨none, _⟩ | ⟨early, s, late, _, split, advances, never, _⟩
    · rw [none] at valid
      cases valid
    · exact ⟨early, s, late, split, advances, never.mono fun _ _ => .inr⟩
  · rintro ⟨early, s, late, rfl, advances, uncut⟩
    have later : ∀ t ∈ late, t.isSingle = true := fun t part => single t (by simp [part])
    obtain ⟨f, renewed, _⟩ := frame?_advances advances
    have valid := frame?_isSome_after later uncut (by rw [renewed]; rfl)
    rwa [← after_cons, ← after_append] at valid
  · rcases seen with ⟨_, clock⟩ | ⟨_, _, _, f, _, _, _, frame, _⟩
    · rw [show session.clock = {} from clock]
      exact ⟨rfl, rfl⟩
    · cases frame.symm.trans none
  · rcases seen with ⟨none, _⟩ | ⟨early, s, late, f', split, advances, never, frame, shows⟩
    · cases none.symm.trans here
    · obtain rfl : f' = f := Option.some.inj (frame.symm.trans here)
      exact ⟨Vector.length_toList, fun pixel inside => shows.pixel_cases inside,
        early, s, late, split, advances, never.mono fun _ _ => .inl, shows⟩

/-- A byte written to the display page after the advance is not in the picture, and after a
reset there is no picture. -/
theorem picture_is_of_latest_advance_of_late_write :
    let b := (default : Bench).withSession (.start 42)
    let advance : Step := .request (.advanceTo ⟨0x3ff0000000000000⟩)
    let write : Step := .request (.poke 0xf00 #[0x80])
    let steps : List Step := [advance, write, .request .reset]
    [advance, write] <+: b.unrolledAll steps ∧
      (∃ f, (b.after [advance, write]).host.session.frame? = some f ∧
        f.Shows b.host.session.machine.memory) ∧
      (b.after steps).host.session.clock.isPending = true := by
  intro b advance write steps
  obtain ⟨_, each⟩ := picture_is_of_latest_advance default 42 steps
  have early : [advance, write] <+: b.unrolledAll steps := ⟨[.request .reset], rfl⟩
  obtain ⟨valid, _, seen⟩ := each [advance, write] early
  obtain ⟨_, pending, _⟩ := each steps List.prefix_rfl
  have noAdvance (here : Bench) : ¬ here.Advances (.request (.poke 0xf00 #[0x80])) := by
    intro advances
    cases advances
  have noCut (here : Bench) : ¬ here.CutsOff (.request (.poke 0xf00 #[0x80])) := by
    rintro ⟨r, same, cuts⟩
    obtain rfl := Step.request.inj same
    cases cuts with
    | load loads _ => cases loads
  have uncut : Never CutsOff (b.perform advance).2 [write] := never_cons.mpr ⟨noCut _, never_nil⟩
  obtain ⟨f, frame⟩ := Option.isSome_iff_exists.mp
    (valid.mpr ⟨[], advance, [write], rfl, .request _, uncut⟩)
  obtain ⟨_, _, before, s, late, split, advances, _, shows⟩ := seen f frame
  refine ⟨early, ⟨f, frame, ?_⟩, (pending rfl).1⟩
  -- the write does not advance, so the latest advance is the first step
  rcases before with _ | ⟨first, _ | ⟨second, rest⟩⟩
  · exact shows
  · obtain ⟨_, split⟩ := List.cons.inj split
    obtain ⟨same, _⟩ := List.cons.inj split
    exact absurd (same ▸ advances) (noAdvance _)
  · simp at split

end Bench

end VipHost
