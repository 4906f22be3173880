import VipHost.Proofs.Changes

/-!
# Barriers against the past

A request that replaces the program, a load that fits or a reset, is a complete
barrier.  The session after it depends on the seed, the bytes below the program
and the program loaded, and on nothing else of what was done before.  So it is
the session that the same request gives on a machine just switched on with these
bytes, and two pasts that agree on seed and low bytes cannot be told apart by
anything done later.

The seed never changes (`Bench.seed_after`), and a loaded machine is a function
of seed, low bytes and program (`Machine.loaded_eq_of_low`).
-/

namespace VipHost

/-- A session with a machine that was just switched on, except for the bytes
below the program. -/
def Session.startWith (seed : UInt64) (low : Vector UInt8 512) : Session where
  machine :=
    { Machine.powerOn seed with
      memory := Memory.initial.overwrite 0 512 fun i => low[i]?.getD 0 }

theorem Session.low_startWith (seed : UInt64) (low : Vector UInt8 512) :
    (Session.startWith seed low).machine.memory.low = low := by
  apply Vector.ext
  intro i hi
  have inside : i < Memory.size ∧ 0 ≤ i ∧ i < 0 + 512 := by
    have all : Memory.size = 4096 := rfl
    omega
  rw [← Memory.get_eq_low _ hi, startWith, Memory.get_overwrite, if_pos inside]
  simp [hi]

/-- The requests that replace the program. -/
inductive Request.Replaces : Request → Prop where
  | load {program : Bytes} (fits : program.size ≤ Memory.programCapacity) :
      Request.Replaces (.load program)
  | reset : Request.Replaces .reset

namespace Bench

/-- The bytes below the program. -/
def low (b : Bench) : Vector UInt8 512 := b.host.session.machine.memory.low

theorem low_request (b : Bench) (r : Request)
    (noPoke : ∀ start data, Change.poke start data ∉ b.changes r) :
    (b.perform (.request r)).2.low = b.low := by
  simp only [low, perform, Prod.map_snd, id, session_answer]
  exact Session.low_changeAll b.host.session noPoke

/-- A request that replaces the program is done, and leaves a freshly loaded
machine. -/
theorem value_answer_of_replaces {r : Request} (replaces : r.Replaces) :
    ∃ program : Bytes, program.size ≤ Memory.programCapacity ∧
      ∀ b : Bench, (b.answer r).value = (.nothing, { b with host := b.host.loaded program }) := by
  cases replaces with
  | @load program fits =>
    refine ⟨program, fits, fun b => ?_⟩
    simp only [answer, Logged.value_bind, Host.value_load, fitting,
      if_neg (Nat.not_lt.mpr fits)]
    rfl
  | reset =>
    refine ⟨#[], Nat.zero_le _, fun b => ?_⟩
    simp only [answer, Logged.value_bind, Host.value_reset]
    rfl

/-- Sessions with the same seed and the same low bytes are the same after the
program was replaced. -/
theorem session_replaced {r : Request} (replaces : r.Replaces) {b b' : Bench}
    (seed : b.host.session.machine.seed = b'.host.session.machine.seed) (low : b.low = b'.low) :
    (b.perform (.request r)).2.host.session = (b'.perform (.request r)).2.host.session := by
  obtain ⟨program, fits, done⟩ := value_answer_of_replaces replaces
  have same : b.host.session.machine.loaded program = b'.host.session.machine.loaded program :=
    Machine.loaded_eq_of_low seed low fits
  simp only [perform, done, Host.loaded, Prod.map_snd, id, same]

/-- Replacing the program succeeds and forgets the past.  The session is the one
that the same request gives on a machine just switched on with the same seed and
low bytes.  After any two pasts that agree on them it is the same session, and
whatever is done with it later gives the same. -/
theorem replacing_forgets_past {r : Request} (replaces : r.Replaces) (seed : UInt64)
    (w w' : Bench) (past past' : List Step) :
    let b := (w.withSession (.start seed)).after past
    let b' := (w'.withSession (.start seed)).after past'
    let fresh := w.withSession (.startWith seed b.low)
    (b.perform (.request r)).1 = .answered .nothing ∧
      (b.perform (.request r)).2.host.session = (fresh.perform (.request r)).2.host.session ∧
      (b.low = b'.low →
        (b.perform (.request r)).2.host.session = (b'.perform (.request r)).2.host.session ∧
          ∀ (around : Bench) (later : List Step),
            (around.withSession (b.perform (.request r)).2.host.session).trace later =
              (around.withSession (b'.perform (.request r)).2.host.session).trace later) := by
  intro b b' fresh
  have seedOf : b.host.session.machine.seed = seed :=
    (w.withSession (.start seed)).seed_after past
  have seedOf' : b'.host.session.machine.seed = seed :=
    (w'.withSession (.start seed)).seed_after past'
  refine ⟨?_, ?_, ?_⟩
  · obtain ⟨program, _, done⟩ := value_answer_of_replaces replaces
    simp only [perform, done, Prod.map_fst]
  · have lowOf : b.low = fresh.low := (Session.low_startWith seed b.low).symm
    exact session_replaced replaces seedOf lowOf
  · intro low
    have same := session_replaced replaces (seedOf.trans seedOf'.symm) low
    refine ⟨same, ?_⟩
    intro around later
    rw [same]

/-- A held key, a running timer and a clock with a baseline leave no trace in a
program loaded after them. -/
theorem replacing_forgets_past_of_running_timer :
    let past : List Step :=
      [.request (.key 'w' .pressed), .request (.writeRegisters { dt := 7 }),
        .request (.advanceTo (.ofNat 5)), .request (.advanceTo (.ofNat 9))]
    let r : Request := .load #[0x12, 0x00]
    let b := ((default : Bench).withSession (.start 42)).after past
    let b' := ((default : Bench).withSession (.start 42)).after []
    r.Replaces ∧ b.low = b'.low ∧
      (b.perform (.request r)).2.host.session = (b'.perform (.request r)).2.host.session := by
  intro past r b b'
  have replaces : r.Replaces := .load (by decide)
  have low : b.low = b'.low := by
    simp only [b, b', past, after_cons, after_nil]
    rw [low_request, low_request, low_request, low_request]
    · simp only [changes]
      exact Host.poke_notMem_keyChanges _ 'w' .pressed
    · simp [changes]
    · simp [changes]
    · simp [changes]
  obtain ⟨_, _, later⟩ := replacing_forgets_past replaces 42 default default past []
  refine ⟨replaces, low, ?_⟩
  simpa only [b, b'] using (later low).1

end Bench

end VipHost
