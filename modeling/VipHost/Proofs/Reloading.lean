import VipHost.Proofs.Changes
import VipHost.Proofs.Unrolling

/-!
# Loading the program file again

A host remembers the path of a program file, never its contents.  Only the request to open a file
sets the path, and only when the program in it was loaded (`Bench.Opens`); every other single step
keeps it (`Bench.programPath_perform`).  So the path is that of the last file opened.

A reload reads the file as it is by then.  It comes to the same as loading these bytes
(`Bench.value_reload_of_bytes`), and if there are none it changes nothing.
-/

namespace VipHost

/-! ## Hosts -/

namespace Host

/-- Two hosts with the same layout and the same program file to load again. -/
structure SameSettings (h h' : Host) : Prop where
  layout : h'.layout = h.layout
  programPath : h'.programPath = h.programPath

theorem SameSettings.refl (h : Host) : h.SameSettings h := ⟨rfl, rfl⟩

theorem SameSettings.trans {h h' h'' : Host} (first : h.SameSettings h')
    (second : h'.SameSettings h'') : h.SameSettings h'' :=
  ⟨second.layout.trans first.layout, second.programPath.trans first.programPath⟩

theorem sameSettings_loaded (h : Host) (program : Bytes) : h.SameSettings (h.loaded program) := by
  unfold loaded
  exact ⟨rfl, rfl⟩

/-- A load keeps the settings, whether or not there is a program. -/
theorem sameSettings_loadFile (h : Host) (read : FileReader) (path : String) :
    h.SameSettings (h.loadFile read path).value.2 := by
  rw [value_loadFile]
  cases read.program path with
  | error e => exact .refl h
  | ok program => exact h.sameSettings_loaded program

theorem sameSettings_reload (h : Host) (read : FileReader) :
    h.SameSettings (h.reload read).value.2 := by
  cases remembered : h.programPath with
  | none =>
    rw [value_reload_none h read remembered]
    exact .refl h
  | some path =>
    rw [value_reload_some h read remembered]
    cases read.program path with
    | error e => exact .refl h
    | ok program => exact h.sameSettings_loaded program

theorem sameSettings_keyEvent (h : Host) (c : Char) (state : KeyState) :
    h.SameSettings (h.keyEvent c state).value.2 := by
  unfold keyEvent
  cases h.layout.key? c with
  | none => exact .refl h
  | some k => exact ⟨rfl, rfl⟩

theorem sameSettings_handle (h : Host) (read : FileReader) (e : HostEvent) :
    h.SameSettings (h.handle read e).value.2 := by
  cases e with
  | key c state => exact h.sameSettings_keyEvent c state
  | reset =>
    have fresh : (h.handle read .reset).value.2 = h.loaded #[] := value_reset h
    rw [fresh]
    exact h.sameSettings_loaded #[]
  | reload =>
    rw [value_handle_reload]
    exact h.sameSettings_reload read
  | start => exact ⟨rfl, rfl⟩
  | dumpRegisters => exact ⟨rfl, rfl⟩
  | quit => exact ⟨rfl, rfl⟩

end Host

/-! ## Steps -/

namespace Bench

/-- A step opens a program file: the program in it was loaded, and the path is remembered. -/
def Opens (b : Bench) (s : Step) : Prop :=
  ∃ path, s = .request (.openFile path) ∧ (b.answer (.openFile path)).value.1 = .nothing

theorem sameSettings_releaseAll (b : Bench) (cs : List Char) :
    b.host.SameSettings (b.releaseAll cs).value.host := by
  induction cs generalizing b with
  | nil => exact .refl b.host
  | cons c cs ih =>
    simp only [releaseAll, Logged.value_bind]
    exact (b.host.sameSettings_handle b.files.read (.key c .released)).trans
      (ih { b with host := (b.host.handle b.files.read (.key c .released)).value.2 })

/-- Opening a file loads it and remembers the path, or changes nothing. -/
theorem openFile_cases (b : Bench) (path : String) :
    (∃ program, b.files.read.program path = .ok program ∧ (b.answer (.openFile path)).value =
        (.nothing, { b with host := (b.host.loaded program).remembering path })) ∨
      ∃ e, b.files.read.program path = .error e ∧
        (b.answer (.openFile path)).value = (.failed e, b) := by
  simp only [answer, Logged.value_bind, Host.value_openFile]
  cases b.files.read.program path with
  | error e => exact .inr ⟨e, rfl, rfl⟩
  | ok program => exact .inl ⟨program, rfl, rfl⟩

/-- A request that opens no file keeps the layout and the path. -/
theorem sameSettings_answer {b : Bench} {r : Request} (opensNone : ¬ b.Opens (.request r)) :
    b.host.SameSettings (b.answer r).value.2.host := by
  cases r with
  | load program =>
    simp only [answer, Logged.value_bind, Host.value_load]
    cases fitting program with
    | error e => exact .refl b.host
    | ok program => exact b.host.sameSettings_loaded program
  | loadFrom source =>
    simp only [answer, Logged.value_bind, Host.value_loadFrom]
    cases source.program with
    | error e => exact .refl b.host
    | ok program => exact b.host.sameSettings_loaded program
  | openFile path =>
    obtain ⟨program, _, done⟩ | ⟨e, _, failed⟩ := b.openFile_cases path
    · exact absurd ⟨path, rfl, congrArg Prod.fst done⟩ opensNone
    · rw [failed]
      exact .refl b.host
  | loadFile path => exact b.host.sameSettings_loadFile b.files.read path
  | reload =>
    have kept := b.host.sameSettings_reload b.files.read
    simp only [answer, Logged.value_bind]
    generalize (b.host.reload b.files.read).value = done at kept
    obtain ⟨result, h⟩ := done
    cases result with
    | error e => exact kept
    | ok loaded => exact kept
  | reset => exact b.host.sameSettings_handle b.files.read .reset
  | key c state => exact b.host.sameSettings_keyEvent c state
  | event e => exact b.host.sameSettings_handle b.files.read e
  | keyboard e now =>
    simp only [answer, Logged.value_bind]
    obtain ⟨asked, hold⟩ := (e.meaning b.hold now).value
    cases asked with
    | none => exact .refl b.host
    | some asked => exact b.host.sameSettings_handle b.files.read asked
  | expire now =>
    simp only [answer]
    cases b.hold with
    | none => exact .refl b.host
    | some hold => exact sameSettings_releaseAll { b with hold := some (hold.expire now).2 } _
  | holdPress c now =>
    simp only [answer]
    cases b.hold with
    | none => exact .refl b.host
    | some hold => exact .refl b.host
  | writeSnapshot text =>
    simp only [answer, Logged.value_bind, Host.writeSnapshot]
    cases Registers.ofText text with
    | error e => exact .refl b.host
    | ok r => exact ⟨rfl, rfl⟩
  | poke start data =>
    simp only [answer]
    cases b.host.session.machine.memory.write? start data with
    | none => exact .refl b.host
    | some memory => exact ⟨rfl, rfl⟩
  | _ => exact ⟨rfl, rfl⟩

/-- A single step that opens no file keeps the layout and the path. -/
theorem sameSettings_perform {b : Bench} {s : Step} (single : s.isSingle = true)
    (opensNone : ¬ b.Opens s) : b.host.SameSettings (b.perform s).2.host := by
  cases s with
  | request r => exact sameSettings_answer opensNone
  | refresh pump now => exact ⟨rfl, rfl⟩
  | run pump script => cases single
  | addPump => exact .refl b.host
  | setDisplay d => exact .refl b.host

/-! ## The path -/

theorem programPath_perform {b : Bench} {s : Step} (single : s.isSingle = true)
    (opensNone : ¬ b.Opens s) : (b.perform s).2.host.programPath = b.host.programPath :=
  (sameSettings_perform single opensNone).programPath

theorem programPath_openFile {b : Bench} {path : String}
    (done : (b.answer (.openFile path)).value.1 = .nothing) :
    (b.perform (.request (.openFile path))).2.host.programPath = some path := by
  obtain ⟨program, _, opened⟩ | ⟨e, _, failed⟩ := b.openFile_cases path
  · simp only [perform, opened]
    rfl
  · rw [failed] at done
    cases done

/-- The path is kept as long as no file is opened. -/
theorem programPath_after {steps : List Step} (single : ∀ s ∈ steps, s.isSingle = true) {b : Bench}
    (opensNone : Never Opens b steps) :
    (b.after steps).host.programPath = b.host.programPath := by
  induction steps generalizing b with
  | nil => rfl
  | cons s steps ih =>
    obtain ⟨now, later⟩ := never_cons.mp opensNone
    rw [after_cons, ih (fun t part => single t (.tail _ part)) later,
      programPath_perform (single s (.head _)) now]

/-- No file was opened and the path is the old one, or one was opened last and the path is its
path. -/
theorem programPath_cases {steps : List Step} (single : ∀ s ∈ steps, s.isSingle = true)
    (b : Bench) :
    (Never Opens b steps ∧ (b.after steps).host.programPath = b.host.programPath) ∨
      ∃ path early late, steps = early ++ .request (.openFile path) :: late ∧
        ((b.after early).answer (.openFile path)).value.1 = .nothing ∧
        Never Opens ((b.after early).perform (.request (.openFile path))).2 late ∧
        (b.after steps).host.programPath = some path := by
  obtain never | ⟨early, s, late, split, ⟨path, rfl, done⟩, never⟩ := never_or_last Opens b steps
  · exact .inl ⟨never, programPath_after single never⟩
  · refine .inr ⟨path, early, late, split, done, never, ?_⟩
    have later : ∀ t ∈ late, t.isSingle = true := fun t part => single t (by simp [split, part])
    rw [split, after_append, after_cons, programPath_after later never, programPath_openFile done]

/-! ## Reloads -/

theorem value_reload_forgotten {b : Bench} (nothing : b.host.programPath = none) :
    (b.answer .reload).value = (.flag false, b) := by
  simp only [answer, Logged.value_bind]
  rw [Host.value_reload_none b.host _ nothing]
  rfl

section Remembered

variable {b : Bench} {path : String}

theorem value_reload_unreadable (remembered : b.host.programPath = some path) {e : IoError}
    (unreadable : b.files.read path = .error e) :
    (b.answer .reload).value = (.failed (.io e), b) := by
  simp only [answer, Logged.value_bind]
  rw [Host.value_reload_some b.host _ remembered, FileReader.program, unreadable]
  rfl

/-- A reload comes to the same as loading the bytes in the file. -/
theorem value_reload_of_bytes (remembered : b.host.programPath = some path) {program : Bytes}
    (file : b.files.read path = .ok program) :
    let loaded := (b.answer (.load program)).value
    (program.size ≤ Memory.programCapacity →
      loaded.1 = .nothing ∧ (b.answer .reload).value = (.flag true, loaded.2)) ∧
    (Memory.programCapacity < program.size →
      loaded = (.failed (.oversized ⟨program.size, Memory.programCapacity⟩), b) ∧
        (b.answer .reload).value = loaded) := by
  simp only [answer, Logged.value_bind, Host.value_load]
  rw [Host.value_reload_some b.host _ remembered, FileReader.program, file]
  dsimp only
  constructor
  · intro fits
    rw [fitting, if_neg (Nat.not_lt.mpr fits)]
    exact ⟨rfl, rfl⟩
  · intro oversized
    rw [fitting, if_pos oversized]
    exact ⟨rfl, rfl⟩

end Remembered

/-- The event reports success however the reload ends. -/
theorem value_event_reload (b : Bench) :
    (b.answer (.event .reload)).value = (.flag true, (b.answer .reload).value.2) := by
  simp only [answer, Logged.value_bind]
  rw [Host.value_handle_reload]
  obtain ⟨result, h⟩ := (b.host.reload b.files.read).value
  cases result with
  | error e => rfl
  | ok loaded => rfl

/-- A reload follows the file opened last.  Take a host that remembers no file, any work with its
runs unrolled, and any point in it.  The path remembered there is that of the last file opened
with success, and there is none before the first one; whatever opens no file keeps the path.
Without a path a reload changes nothing.  With one it does what loading the bytes does that are in
the file by then, or fails as reading them does and changes nothing.  So as long as no other file
is opened, a reload succeeds as soon as the file can be read and its program fits.  The event does
the same and always reports success. -/
theorem reload_follows_last_opened (w : Bench) (steps : List Step) :
    let b := { w with host := { w.host with programPath := none } }
    let flat := b.unrolledAll steps
    b.after flat = b.after steps ∧
      ∀ before, before <+: flat →
        let here := b.after before
        ((∀ path, here.host.programPath = some path ↔
            ∃ early late, before = early ++ .request (.openFile path) :: late ∧
              ((b.after early).answer (.openFile path)).value.1 = .nothing ∧
              Never Opens ((b.after early).perform (.request (.openFile path))).2 late) ∧
          (here.host.programPath = none ↔ Never Opens b before) ∧
          ∀ s, s.isSingle = true → ¬ here.Opens s →
            (here.perform s).2.host.programPath = here.host.programPath) ∧
        (here.host.programPath = none → (here.answer .reload).value = (.flag false, here)) ∧
        (∀ path, here.host.programPath = some path →
          (∀ e, here.files.read path = .error e →
            (here.answer .reload).value = (.failed (.io e), here)) ∧
          (∀ program, here.files.read path = .ok program →
            let loaded := (here.answer (.load program)).value
            (program.size ≤ 3232 →
              loaded.1 = .nothing ∧ (here.answer .reload).value = (.flag true, loaded.2)) ∧
            (3232 < program.size →
              loaded = (.failed (.oversized ⟨program.size, 3232⟩), here) ∧
                (here.answer .reload).value = loaded)) ∧
          ∀ later, (∀ s ∈ later, s.isSingle = true) → Never Opens here later →
            ∀ program, (here.after later).files.read path = .ok program → program.size ≤ 3232 →
              ((here.after later).answer .reload).value.1 = .flag true) ∧
        (here.answer (.event .reload)).value = (.flag true, (here.answer .reload).value.2) := by
  intro b flat
  refine ⟨b.after_unrolledAll steps, ?_⟩
  intro before initial here
  have single : ∀ s ∈ before, s.isSingle = true :=
    fun s part => isSingle_unrolledAll (initial.subset part)
  have cases := programPath_cases single b
  refine ⟨⟨fun path => ⟨fun remembered => ?_, ?_⟩, ⟨fun nothing => ?_, fun never => ?_⟩,
    fun s one => programPath_perform one⟩, value_reload_forgotten, fun path remembered => ?_,
    here.value_event_reload⟩
  · obtain ⟨_, nothing⟩ | ⟨last, early, late, split, done, never, path'⟩ := cases
    · cases nothing.symm.trans remembered
    · obtain rfl : last = path := Option.some.inj (path'.symm.trans remembered)
      exact ⟨early, late, split, done, never⟩
  · rintro ⟨early, late, rfl, done, never⟩
    have later : ∀ t ∈ late, t.isSingle = true := fun t part => single t (by simp [part])
    show (b.after _).host.programPath = some path
    rw [after_append, after_cons, programPath_after later never, programPath_openFile done]
  · obtain ⟨never, _⟩ | ⟨_, _, _, _, _, _, path⟩ := cases
    · exact never
    · cases nothing.symm.trans path
  · exact programPath_after single never
  · refine ⟨fun e => value_reload_unreadable remembered,
      fun program => value_reload_of_bytes remembered,
      fun later singles never program file fits => ?_⟩
    have kept := (programPath_after singles never).trans remembered
    rw [((value_reload_of_bytes kept file).1 fits).2]

/-- A file that is removed after it was opened, and written again with another program after a
reload failed. -/
theorem reload_follows_last_opened_of_removed_file :
    let w : Bench := default
    let b := { w with host := { w.host with programPath := none } }
    let write : Step := .request (.writeFile "a" #[0x12, 0x00])
    let steps : List Step := [write, .request (.openFile "a"), .request (.removeFile "a")]
    let later : List Step := [.request .reload, .request (.writeFile "a" #[0x34])]
    let here := b.after steps
    here.host.programPath = some "a" ∧
      (here.answer .reload).value = (.failed (.io .notFound), here) ∧
      ((here.after later).answer .reload).value.1 = .flag true := by
  intro w b write steps later here
  have contents : (Files.write {} "a" #[0x12, 0x00]).read.program "a" = .ok #[0x12, 0x00] := by
    with_unfolding_all rfl
  have gone : ((Files.write {} "a" #[0x12, 0x00]).remove "a").read "a" = .error .notFound := by
    with_unfolding_all rfl
  have back : (((Files.write {} "a" #[0x12, 0x00]).remove "a").write "a" #[0x34]).read "a" =
      .ok #[0x34] := by with_unfolding_all rfl
  have opened : ((b.after [write]).answer (.openFile "a")).value.1 = .nothing := by
    obtain ⟨_, _, done⟩ | ⟨e, none, _⟩ := (b.after [write]).openFile_cases "a"
    · rw [done]
    · cases (show _ = Except.error e from none).symm.trans contents
  have neither (here : Bench) {r : Request} (other : ∀ path, r ≠ .openFile path) :
      ¬ here.Opens (.request r) := by
    rintro ⟨path, same, _⟩
    exact other path (Step.request.inj same)
  obtain ⟨_, each⟩ := reload_follows_last_opened w steps
  obtain ⟨⟨last, _, _⟩, _, reloads, _⟩ := each steps List.prefix_rfl
  have remembered : here.host.programPath = some "a" :=
    (last "a").mpr ⟨[write], [.request (.removeFile "a")], rfl, opened,
      never_cons.mpr ⟨neither _ (by simp), never_nil⟩⟩
  obtain ⟨unreadable, _, again⟩ := reloads "a" remembered
  have never : Never Opens here later :=
    never_cons.mpr ⟨neither _ (by simp), never_cons.mpr ⟨neither _ (by simp), never_nil⟩⟩
  have failed := unreadable .notFound gone
  have single : ∀ s ∈ later, s.isSingle = true := by simp [later, Step.isSingle]
  refine ⟨remembered, failed, again later single never #[0x34] ?_ (by simp)⟩
  show ((here.answer .reload).value.2.files.write "a" #[0x34]).read "a" = .ok #[0x34]
  rw [failed]
  exact back

end Bench

end VipHost
