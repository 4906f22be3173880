import VipHost.Proofs.Interleaving

/-!
# Cancellation beats a waiting refresh

A refresh looks at the control for the last time when it holds the session.  Once the
control is stopped, a refresh that still has this look ahead touches neither the session
nor a display (`Floor.untouched_step`), and none gets past it any more
(`Floor.not_isPast_after`).  The one that was past it already holds the session, so there
is only one, and it draws once at most (`Floor.at_most_one_draw`).
-/

namespace VipHost.Floor

variable {f g : Floor} {p q : Nat} {r : Refreshing}

/-! ## Refreshes that are stopped -/

theorem isPast_of_put {x : Option Refreshing} (work : g.work = Function.update f.work p x)
    (free : ∀ r, x = some r → r.place.isPast = false) (past : g.IsPast q) :
    f.IsPast q ∧ q ≠ p := by
  obtain ⟨r, busy, past⟩ := past
  rw [work] at busy
  by_cases same : q = p
  · subst same
    rw [Function.update_self] at busy
    cases (free r busy).symm.trans past
  · rw [Function.update_of_ne same] at busy
    exact ⟨⟨r, busy, past⟩, same⟩

/-- A move that touches neither the session nor a display, and lets no refresh past its
last look at the control. -/
structure Untouched (f : Floor) (report : Report) (g : Floor) : Prop where
  session : g.session = f.session
  displays : g.displays = f.displays
  report : report = .nothing ∨ report = .blocked ∨ report = .ticked .refused
  isPast : ∀ q, g.IsPast q → f.IsPast q

theorem Untouched.put {report : Report} (answer : report = .nothing ∨ report = .ticked .refused)
    {x : Option Refreshing} (free : ∀ r, x = some r → r.place.isPast = false)
    (work : g.work = Function.update f.work p x) (session : g.session = f.session)
    (displays : g.displays = f.displays) : f.Untouched report g :=
  ⟨session, displays, answer.imp_right .inr, fun _ past => (isPast_of_put work free past).1⟩

theorem Untouched.blocked (f : Floor) : f.Untouched .blocked f :=
  ⟨rfl, rfl, .inr (.inl rfl), fun _ past => past⟩

/-- Once the control is stopped, a refresh that still has to look at it touches nothing. -/
theorem untouched_go (stopped : f.control = .stopped) (ahead : r.place.isPast = false) (p : Nat) :
    f.Untouched (f.go p r).1 (f.go p r).2 := by
  have refused : f.control.admits = false := by rw [stopped]; rfl
  have cancelled : f.control.isCancelled = true := by rw [stopped]; rfl
  unfold go
  cases place : r.place with
  | called =>
    dsimp only
    rw [if_neg (by simp [refused])]
    exact .put (.inr rfl) (by simp) rfl rfl rfl
  | claiming =>
    refine .put (.inl rfl) ?_ rfl rfl rfl
    rintro _ ⟨⟩
    rfl
  | waiting =>
    dsimp only
    split
    · refine .put (.inl rfl) ?_ rfl rfl rfl
      rintro _ ⟨⟩
      rfl
    · exact .blocked f
  | checking =>
    dsimp only
    rw [if_pos cancelled]
    exact .put (.inr rfl) (by simp) rfl rfl rfl
  | passed =>
    rw [place] at ahead
    cases ahead
  | advanced elapsed =>
    rw [place] at ahead
    cases ahead

/-- A refresh only moves its own pump. -/
theorem work_go_other (f : Floor) (r : Refreshing) (other : q ≠ p) :
    (f.go p r).2.work q = f.work q := by
  have put (x : Option Refreshing) : (f.put p x).work q = f.work q := by
    unfold put
    exact Function.update_of_ne other _ _
  unfold go
  cases r.place with
  | called =>
    dsimp only
    split
    · exact put _
    · exact put _
  | claiming => exact put _
  | waiting =>
    dsimp only
    split
    · exact put _
    · rfl
  | checking =>
    dsimp only
    split
    · exact put _
    · exact put _
  | passed => exact put _
  | advanced elapsed => exact put _

theorem untouched_step (stopped : f.control = .stopped) (ahead : ¬ f.IsPast p) :
    f.Untouched (f.step (.go p)).1 (f.step (.go p)).2 := by
  cases busy : f.work p with
  | none =>
    rw [step_go_idle busy]
    exact .blocked f
  | some r =>
    rw [step_go busy]
    refine untouched_go stopped ?_ p
    cases past : r.place.isPast with
    | false => rfl
    | true => exact absurd ⟨r, busy, past⟩ ahead

/-! ## Draws -/

/-- What a move does to the displays: nothing, or a refresh that is past its last look at
the control draws on one of them and is done. -/
inductive DrawMove (f : Floor) : Report → Floor → Prop where
  | quiet {report : Report} {g : Floor} (noDraw : report.isDrawn = false)
      (same : g.displays = f.displays) : DrawMove f report g
  | drawn {report : Report} {g : Floor} {p : Nat} (past : f.IsPast p)
      (done : ∀ q, g.IsPast q → f.IsPast q ∧ q ≠ p) (display : Nat) (frame : Frame)
      (draws : g.displays =
        Function.update f.displays display ((f.displays display).draw frame).2) :
      DrawMove f report g

theorem drawMove_go (busy : f.work p = some r) : f.DrawMove (f.go p r).1 (f.go p r).2 := by
  unfold go
  cases place : r.place with
  | called =>
    dsimp only
    split
    · exact .quiet rfl rfl
    · exact .quiet rfl rfl
  | claiming => exact .quiet rfl rfl
  | waiting =>
    dsimp only
    split
    · exact .quiet rfl rfl
    · exact .quiet rfl rfl
  | checking =>
    dsimp only
    split
    · exact .quiet rfl rfl
    · exact .quiet rfl rfl
  | passed => exact .quiet rfl rfl
  | advanced elapsed =>
    refine .drawn ⟨r, busy, by rw [place]; rfl⟩ ?_ r.display f.session.machine.frame rfl
    exact fun q past => isPast_of_put rfl (by simp) past

theorem drawMove (f : Floor) (m : Move) : f.DrawMove (f.step m).1 (f.step m).2 := by
  have move := f.stepped m
  generalize (f.step m).1 = report, (f.step m).2 = g at move
  cases move with
  | gone busy => exact drawMove_go busy
  | blocked => exact .quiet rfl rfl
  | called idle now display => exact .quiet rfl rfl
  | started => exact .quiet rfl rfl
  | cancelled => exact .quiet rfl rfl
  | entered free => exact .quiet rfl rfl
  | changed c => exact .quiet rfl rfl
  | left held => exact .quiet rfl rfl

/-- Once the control is stopped, no refresh gets past its last look at it. -/
theorem isPast_of_isPast_step (stopped : f.control = .stopped) (m : Move)
    (past : (f.step m).2.IsPast q) : f.IsPast q := by
  have move := f.stepped m
  generalize (f.step m).1 = report, (f.step m).2 = g at move past
  cases move with
  | called idle now display =>
    refine (isPast_of_put rfl ?_ past).1
    rintro _ ⟨⟩
    rfl
  | @gone p r busy =>
    cases before : r.place.isPast with
    | false => exact (untouched_go stopped before p).isPast q past
    | true =>
      -- the pump that goes was past its look already, and the others do not move
      by_cases same : q = p
      · exact ⟨r, same ▸ busy, before⟩
      · obtain ⟨r', busy', past'⟩ := past
        rw [work_go_other f r same] at busy'
        exact ⟨r', busy', past'⟩
  | blocked => exact past
  | started => exact past
  | cancelled => exact past
  | entered free => exact past
  | changed c => exact past
  | left held => exact past

theorem not_isPast_after (stopped : f.control = .stopped) (ahead : ¬ f.IsPast p)
    (moves : List Move) : ¬ (f.after moves).IsPast p := by
  have kept := after_preserves (P := fun f => f.control = .stopped ∧ ¬ f.IsPast p)
    (fun f m ⟨stopped, ahead⟩ =>
      ⟨stopped_step f m stopped, fun past => ahead (isPast_of_isPast_step stopped m past)⟩)
    ⟨stopped, ahead⟩ moves
  exact kept.2

/-- If the control is stopped and no refresh is past its last look at it, nothing is drawn. -/
theorem no_draw (stopped : f.control = .stopped) (ahead : ∀ p, ¬ f.IsPast p) (moves : List Move) :
    (f.reports moves).countP Report.isDrawn = 0 ∧ (f.after moves).displays = f.displays := by
  induction moves generalizing f with
  | nil => exact ⟨rfl, rfl⟩
  | cons m moves ih =>
    have rest := ih (stopped_step f m stopped) fun p past =>
      ahead p (isPast_of_isPast_step stopped m past)
    have draws := f.drawMove m
    rw [reports, List.countP_cons, after]
    generalize f.step m = done at rest draws
    obtain ⟨report, g⟩ := done
    cases draws with
    | quiet noDraw same => exact ⟨by simp [rest.1, noDraw], rest.2.trans same⟩
    | drawn past _ _ _ _ => exact absurd past (ahead _)

/-- Once the control is stopped, at most one more picture is drawn. -/
theorem at_most_one_draw (sound : f.Sound) (stopped : f.control = .stopped) (moves : List Move) :
    (f.reports moves).countP Report.isDrawn ≤ 1 ∧
      ((f.after moves).displays = f.displays ∨
        ∃ display frame, (f.after moves).displays =
          Function.update f.displays display ((f.displays display).draw frame).2) := by
  induction moves generalizing f with
  | nil => exact ⟨Nat.zero_le 1, .inl rfl⟩
  | cons m moves ih =>
    have stopped' := stopped_step f m stopped
    have rest := ih (sound_step f m sound) stopped'
    have none := fun ahead => no_draw stopped' ahead moves
    have draws := f.drawMove m
    rw [reports, List.countP_cons, after]
    generalize f.step m = done at rest none draws
    obtain ⟨report, g⟩ := done
    cases draws with
    | quiet noDraw same =>
      rw [same] at rest
      simpa [noDraw] using rest
    | @drawn p past done display frame draws =>
      -- whoever is past the look at the control holds the session, and that was `p`
      have ahead : ∀ q, ¬ g.IsPast q := by
        intro q past'
        obtain ⟨before, other⟩ := done q past'
        exact other (Holds.unique sound before.holds past.holds)
      obtain ⟨zero, same⟩ := none ahead
      refine ⟨?_, .inr ⟨display, frame, same.trans draws⟩⟩
      split
      · omega
      · omega

/-- Cancellation beats a refresh that waits for the session.  Take a host whose session
nobody holds and any moves of any pumps, with starts, cancels and other work with the
session at any place between them.  At most one start takes effect, and a cancel stops the
control.  From then on the control stays stopped.  A refresh that looks at it under the
session is refused, and so is each one that has this look ahead; neither touches the
session or a display.  At most one more picture is drawn, and none if no refresh was past
its look when the control was stopped. -/
theorem cancel_beats_waiting_refreshes (session : Session) (control : PumpState)
    (displays : Nat → Display) (before later : List Move) :
    let start : Floor := { session, control, displays }
    let f := start.after before
    (start.reports (before ++ later)).count (.started true) ≤ 1 ∧
      (.cancel ∈ before → f.control = .stopped) ∧
      (f.control = .stopped →
        (∀ part, part <+: later →
          let here := f.after part
          here.control = .stopped ∧
            ∀ p, let done := here.step (.go p)
              (∀ r, here.work p = some r → r.place = .checking → done.1 = .ticked .refused) ∧
                (¬ here.IsPast p → here.Untouched done.1 done.2) ∧
                (¬ f.IsPast p → ¬ here.IsPast p)) ∧
        (f.reports later).countP Report.isDrawn ≤ 1 ∧
        ((f.after later).displays = f.displays ∨
          ∃ display frame, (f.after later).displays =
            Function.update f.displays display ((f.displays display).draw frame).2) ∧
        ((∀ p, ¬ f.IsPast p) →
          (f.reports later).countP Report.isDrawn = 0 ∧
            (f.after later).displays = f.displays)) := by
  intro start f
  have sound : f.Sound := after_preserves sound_step (by simp [start, Sound, Holds]) before
  refine ⟨start.starts_le_one _, fun cancelled => stopped_of_cancelled cancelled start, ?_⟩
  intro stopped
  obtain ⟨once, drawn⟩ := at_most_one_draw sound stopped later
  refine ⟨?_, once, drawn, fun ahead => no_draw stopped ahead later⟩
  intro part _ here
  have still : here.control = .stopped := after_preserves stopped_step stopped part
  refine ⟨still, fun p => ⟨?_, fun ahead => untouched_step still ahead, ?_⟩⟩
  · intro r busy place
    rw [step_go busy, go, place]
    dsimp only
    rw [if_pos (by simp [still, PumpState.isCancelled])]
  · intro ahead
    exact not_isPast_after stopped ahead part

/-- One pump is past its look at the control when the cancel comes, and draws.  The other
one waits for the session, and is refused. -/
theorem cancel_beats_waiting_refreshes_of_two_pumps :
    let now : Binary64 := ⟨0x3ff0000000000000⟩
    let start : Floor := { session := .start 42 }
    let before : List Move :=
      [.start, .call 0 now 0, .go 0, .go 0, .go 0, .call 1 now 1, .go 1, .go 0, .cancel]
    let later : List Move := [.go 1, .go 0, .go 0, .go 1, .go 1]
    let f := start.after before
    f.control = .stopped ∧
      f.reports later = [.blocked, .nothing, .ticked (.shown 0), .nothing, .ticked .refused] ∧
      (f.reports later).countP Report.isDrawn ≤ 1 ∧
      ((f.after (later.take 4)).step (.go 1)).1 = .ticked .refused ∧
      ((f.after (later.take 4)).step (.go 1)).2.displays = (f.after (later.take 4)).displays := by
  intro now start before later f
  obtain ⟨_, cancelled, stops⟩ :=
    cancel_beats_waiting_refreshes (.start 42) .idle (fun _ => {}) before later
  have stopped : f.control = .stopped := cancelled (by simp [before])
  obtain ⟨each, once, _, _⟩ := stops stopped
  have refused (part : List Move) (initial : part <+: later) (p : Nat) (r : Refreshing)
      (busy : (f.after part).work p = some r) (place : r.place = .checking) :
      ((f.after part).step (.go p)).1 = .ticked .refused :=
    ((each part initial).2 p).1 r busy place
  have untouched (part : List Move) (initial : part <+: later) (p : Nat)
      (ahead : ¬ (f.after part).IsPast p) :
      ((f.after part).step (.go p)).2.displays = (f.after part).displays :=
    (((each part initial).2 p).2.1 ahead).displays
  have reports : f.reports later =
      [.blocked, .nothing, .ticked (.shown 0), .nothing, .ticked .refused] := by decide +kernel
  have checking : (f.after (later.take 4)).work 1 =
      some { now, display := 1, place := .checking } := by decide +kernel
  have ahead : ¬ (f.after (later.take 4)).IsPast 1 := by
    rintro ⟨r, busy, past⟩
    cases checking.symm.trans busy
    cases past
  have initial : later.take 4 <+: later := List.take_prefix 4 later
  exact ⟨stopped, reports, once, refused _ initial 1 _ checking rfl, untouched _ initial 1 ahead⟩

end VipHost.Floor
