import VipHost.Proofs.Decoding
import VipHost.Proofs.KeyLines
import VipHost.Settings

/-!
# Settings line by line

A file of settings is a text of lines, each with a key and a value.  The lines do not know of each
other: a setting with a line becomes what is written there, one without has its default, lines of
other keys are passed over, and the order of the lines is of no account
(`each_line_sets_its_own_setting`).

Settings are named (`Setting`) and each is a field that can be asked for and set (`get`, `set`) and
has its own decoder (`field_eq`), so one statement speaks of all of them: what is written for a
setting (`Setting.Writes`) comes to a `set` of it (`field_of_writes`), and a `set` of one setting
leaves the others (`get_set_of_ne`).  Over all lines that gives the content of each setting
(`fields_of_writes`), whatever the settings were before.
-/

namespace VipHost

/-- What a user can set. -/
inductive Setting where
  | seed
  | layout
  | refreshRate
  | keyHoldMillis
  | autostart
  | logLevel
  | logFile
deriving DecidableEq

namespace Setting

/-- The key of a setting in a file. -/
def key : Setting → String
  | seed => "seed"
  | layout => "layout"
  | refreshRate => "refresh_rate"
  | keyHoldMillis => "key_hold_ms"
  | autostart => "autostart"
  | logLevel => "log_level"
  | logFile => "log_file"

theorem key_inj {x y : Setting} : x.key = y.key ↔ x = y := by
  cases x <;> cases y <;> simp [key]

/-- What a setting can be. -/
def Content : Setting → Type
  | seed => Option UInt64
  | layout => Layout
  | refreshRate => Binary64
  | keyHoldMillis => UInt64
  | autostart => Bool
  | logLevel => String
  | logFile => Option String

/-- A value is written for this content of a setting.  A rate may be written as an integer; then it
is the nearest double. -/
inductive Writes (value : List Char) : (x : Setting) → x.Content → Prop where
  | seed {n : UInt64} (written : (Toml.Scalar.integer n.toNat).WrittenAs value) :
      Writes value .seed (some n)
  | layout {l : Layout} (written : (Toml.Scalar.text l.name).WrittenAs value) :
      Writes value .layout l
  | wholeRate {n : Int} {x : Binary64} (written : (Toml.Scalar.integer n).WrittenAs value)
      (nearest : x.Nearest (decide (n < 0)) n.natAbs) : Writes value .refreshRate x
  | rate {x : Binary64} (written : (Toml.Scalar.float x).WrittenAs value) :
      Writes value .refreshRate x
  | keyHoldMillis {n : UInt64} (written : (Toml.Scalar.integer n.toNat).WrittenAs value) :
      Writes value .keyHoldMillis n
  | autostart {b : Bool} (written : (Toml.Scalar.boolean b).WrittenAs value) :
      Writes value .autostart b
  | logLevel {t : String} (written : (Toml.Scalar.text t).WrittenAs value) :
      Writes value .logLevel t
  | logFile {t : String} (written : (Toml.Scalar.text t).WrittenAs value) :
      Writes value .logFile (some t)

/-- A value is of a type that a setting does not have, or out of its range. -/
inductive Misfit (value : List Char) : Setting → Prop where
  | boolean {x : Setting} {b : Bool} (other : x ≠ .autostart)
      (written : (Toml.Scalar.boolean b).WrittenAs value) : Misfit value x
  | integer {n : Int} (written : (Toml.Scalar.integer n).WrittenAs value) :
      Misfit value .autostart
  | negative {x : Setting} {n : Int} (natural : x = .seed ∨ x = .keyHoldMillis) (below : n < 0)
      (written : (Toml.Scalar.integer n).WrittenAs value) : Misfit value x
  | unknown {t : String} (noName : ∀ l : Layout, t ≠ l.name)
      (written : (Toml.Scalar.text t).WrittenAs value) : Misfit value .layout

end Setting

namespace Settings

/-! ## One setting -/

/-- The content of a setting. -/
def get (s : Settings) : (x : Setting) → x.Content
  | .seed => s.seed
  | .layout => s.layout
  | .refreshRate => s.refreshRate
  | .keyHoldMillis => s.keyHoldMillis
  | .autostart => s.autostart
  | .logLevel => s.logLevel
  | .logFile => s.logFile

/-- The settings with another content of one. -/
def set (s : Settings) : (x : Setting) → x.Content → Settings
  | .seed, seed => { s with seed }
  | .layout, layout => { s with layout }
  | .refreshRate, refreshRate => { s with refreshRate }
  | .keyHoldMillis, keyHoldMillis => { s with keyHoldMillis }
  | .autostart, autostart => { s with autostart }
  | .logLevel, logLevel => { s with logLevel }
  | .logFile, logFile => { s with logFile }

theorem get_set (s : Settings) (x : Setting) (c : x.Content) : (s.set x c).get x = c := by
  cases x <;> rfl

theorem get_set_of_ne (s : Settings) {x y : Setting} (other : y ≠ x) (c : x.Content) :
    (s.set x c).get y = s.get y := by
  cases x <;> cases y <;> first | rfl | exact absurd rfl other

theorem ext_get {s t : Settings} (same : ∀ x, s.get x = t.get x) : s = t := by
  obtain ⟨seed, layout, rate, hold, autostart, level, file⟩ := s
  obtain ⟨seed', layout', rate', hold', autostart', level', file'⟩ := t
  obtain rfl : seed = seed' := same .seed
  obtain rfl : layout = layout' := same .layout
  obtain rfl : rate = rate' := same .refreshRate
  obtain rfl : hold = hold' := same .keyHoldMillis
  obtain rfl : autostart = autostart' := same .autostart
  obtain rfl : level = level' := same .logLevel
  obtain rfl : file = file' := same .logFile
  rfl

/-! ## One line -/

/-- How a value is read as the content of a setting. -/
def decoder : (x : Setting) → Toml.Decoder x.Content
  | .seed => fun n => (Toml.natural64 n).map some
  | .layout => Toml.oneOf [Layout.conventional.name, Layout.literal.name] Layout.ofName?
  | .refreshRate => Toml.float
  | .keyHoldMillis => Toml.natural64
  | .autostart => Toml.boolean
  | .logLevel => Toml.text
  | .logFile => fun n => (Toml.path n).map some

/-- An entry under the key of a setting sets it to what its value is read as. -/
theorem field_eq {e : Toml.Entry} {x : Setting} (name : e.1.name = x.key) (s : Settings) :
    s.field e = (Toml.atKey e (decoder x)).map (s.set x) := by
  cases x with
  | seed =>
    simp only [field, name, Setting.key]
    exact (Toml.atKey_map e Toml.natural64 some (s.set .seed)).symm
  | logFile =>
    simp only [field, name, Setting.key]
    exact (Toml.atKey_map e Toml.path some (s.set .logFile)).symm
  | _ =>
    simp only [field, name, Setting.key]
    rfl

section

variable {l : Toml.KeyLine} {e : Toml.Entry} (gives : l.Gives e)
include gives

theorem decoder_of_writes {x : Setting} {c : x.Content} (writes : x.Writes l.value c) :
    decoder x e.2 = .ok c := by
  cases writes with
  | seed written =>
    obtain ⟨span, node⟩ := gives.scalar written
    have read := Toml.natural64_of_isInteger ⟨span, node⟩
    exact congrArg (Except.map some) read
  | layout written =>
    obtain ⟨span, node⟩ := gives.scalar written
    simp only [decoder, node, Toml.oneOf, Layout.ofName?_name]
    rfl
  | wholeRate written nearest =>
    obtain ⟨span, node⟩ := gives.scalar written
    rw [node, nearest.unique (.ofInt _)]
    rfl
  | keyHoldMillis written =>
    obtain ⟨span, node⟩ := gives.scalar written
    exact Toml.natural64_of_isInteger ⟨span, node⟩
  | rate written | autostart written | logLevel written | logFile written =>
    obtain ⟨span, node⟩ := gives.scalar written
    rw [node]
    rfl

theorem decoder_of_misfit {x : Setting} (misfit : x.Misfit l.value) :
    ∃ p, decoder x e.2 = .error p := by
  cases misfit with
  | boolean other written =>
    obtain ⟨span, node⟩ := gives.scalar written
    rw [node]
    cases x with
    | autostart => exact absurd rfl other
    | _ => exact ⟨_, rfl⟩
  | integer written =>
    obtain ⟨span, node⟩ := gives.scalar written
    rw [node]
    exact ⟨_, rfl⟩
  | @negative _ n natural below written =>
    obtain ⟨span, node⟩ := gives.scalar written
    have error : Toml.natural64 e.2 = .error (e.2.problem (.outOfRange n "u64")) := by
      rw [node, Toml.natural64, Toml.natural, if_neg (by omega)]
      rfl
    obtain rfl | rfl := natural
    · exact ⟨_, congrArg (Except.map some) error⟩
    · exact ⟨_, error⟩
  | @unknown t noName written =>
    obtain ⟨span, node⟩ := gives.scalar written
    have none : Layout.ofName? t = none := by
      rw [Layout.ofName?, if_neg (noName .conventional), if_neg (noName .literal)]
    simp only [decoder, node, Toml.oneOf, none]
    exact ⟨_, rfl⟩

/-- The line of a setting gives it the content that is written there. -/
theorem field_of_writes {x : Setting} (same : l.key = x.key) {c : x.Content}
    (writes : x.Writes l.value c) (s : Settings) : s.field e = .ok (s.set x c) := by
  rw [field_eq (gives.1.trans same), Toml.atKey_of_ok (decoder_of_writes gives writes)]
  rfl

/-- The line of a setting is refused, if its value does not fit. -/
theorem field_of_misfit {x : Setting} (same : l.key = x.key) (misfit : x.Misfit l.value)
    (s : Settings) : ∃ p, s.field e = .error p := by
  obtain ⟨p, refused⟩ := Toml.atKey_of_error (decoder_of_misfit gives misfit)
  rw [field_eq (gives.1.trans same), refused]
  exact ⟨p, rfl⟩

/-- A line of no setting is passed over. -/
theorem field_of_other (other : ∀ x : Setting, l.key ≠ x.key) (s : Settings) :
    s.field e = .ok s := by
  have names (x : Setting) : e.1.name ≠ x.key := by
    rw [gives.1]
    exact other x
  unfold field
  split
  next name => exact absurd name (names .seed)
  next name => exact absurd name (names .layout)
  next name => exact absurd name (names .refreshRate)
  next name => exact absurd name (names .keyHoldMillis)
  next name => exact absurd name (names .autostart)
  next name => exact absurd name (names .logLevel)
  next name => exact absurd name (names .logFile)
  next => rfl

end

/-! ## All lines -/

/-- Every line that is a setting's leaves it with the content that is written there, and what has
no line is left as it was. -/
theorem fields_of_writes {lines : List Toml.KeyLine} {entries : List Toml.Entry}
    (give : lines.Forall₂ Toml.KeyLine.Gives entries) {t : Settings}
    (writes : ∀ l ∈ lines, ∀ x : Setting, l.key = x.key → x.Writes l.value (t.get x))
    (s : Settings) :
    ∃ s', Toml.fields field s entries = .ok s' ∧ ∀ x : Setting,
      (x.key ∈ lines.map (·.key) → s'.get x = t.get x) ∧
        (x.key ∉ lines.map (·.key) → s'.get x = s.get x) := by
  induction give generalizing s with
  | nil => exact ⟨s, rfl, fun x => ⟨fun inside => (List.not_mem_nil inside).elim, fun _ => rfl⟩⟩
  | @cons l e lines entries gives give ih =>
    have others := fun l' inside => writes l' (List.mem_cons_of_mem l inside)
    rw [List.map_cons]
    by_cases known : ∃ x : Setting, l.key = x.key
    · obtain ⟨x, same⟩ := known
      have first := field_of_writes gives same (writes l (List.mem_cons_self ..) x same) s
      obtain ⟨s', read, left⟩ := ih others (s.set x (t.get x))
      refine ⟨s', by rw [Toml.fields, List.foldlM_cons, first]; exact read, fun y => ?_⟩
      obtain ⟨listed, unlisted⟩ := left y
      by_cases later : y.key ∈ lines.map (·.key)
      · exact ⟨fun _ => listed later, fun absent => absurd (List.mem_cons_of_mem _ later) absent⟩
      · rw [unlisted later, List.mem_cons, same]
        constructor
        · rintro (here | inside)
          · rw [Setting.key_inj.mp here, get_set]
          · exact absurd inside later
        · intro absent
          exact get_set_of_ne s (fun here => absent (.inl (by rw [here]))) _
    · have other (x : Setting) : l.key ≠ x.key := fun same => known ⟨x, same⟩
      obtain ⟨s', read, left⟩ := ih others s
      refine ⟨s', ?_, fun y => ?_⟩
      · rw [Toml.fields, List.foldlM_cons, field_of_other gives other]
        exact read
      · rw [List.mem_cons, or_iff_right (other y).symm]
        exact left y

/-- A line of a setting has a value of its type, and any other line a valid value. -/
structure Fits (l : Toml.KeyLine) : Prop where
  writes : ∀ x : Setting, l.key = x.key → ∃ c, x.Writes l.value c
  valid : (∀ x : Setting, l.key ≠ x.key) → Toml.IsValue l.value

/-- The settings that lines with different keys are written for. -/
theorem exists_written {lines : List Toml.KeyLine} (distinct : (lines.map (·.key)).Nodup)
    (fit : ∀ l ∈ lines, Fits l) :
    ∃ t : Settings,
      (∀ l ∈ lines, ∀ x : Setting, l.key = x.key → x.Writes l.value (t.get x)) ∧
        ∀ x : Setting, x.key ∉ lines.map (·.key) → t.get x = get {} x := by
  induction lines with
  | nil => exact ⟨{}, fun l inside => (List.not_mem_nil inside).elim, fun _ _ => rfl⟩
  | cons l lines ih =>
    rw [List.map_cons, List.nodup_cons] at distinct
    obtain ⟨new, distinct⟩ := distinct
    obtain ⟨t, writes, default⟩ :=
      ih distinct fun l' inside => fit l' (List.mem_cons_of_mem l inside)
    by_cases known : ∃ x : Setting, l.key = x.key
    · obtain ⟨x, same⟩ := known
      obtain ⟨c, written⟩ := (fit l (List.mem_cons_self ..)).writes x same
      refine ⟨t.set x c, fun l' inside y same' => ?_, fun y absent => ?_⟩
      · obtain rfl | inside := List.mem_cons.mp inside
        · obtain rfl := Setting.key_inj.mp (same.symm.trans same')
          rwa [get_set]
        · have differ : y ≠ x := by
            rintro rfl
            exact new (List.mem_map.mpr ⟨l', inside, same'.trans same.symm⟩)
          rw [get_set_of_ne t differ]
          exact writes l' inside y same'
      · rw [List.map_cons, List.mem_cons, not_or] at absent
        rw [get_set_of_ne t (fun here => absent.1 (by rw [here, same]))]
        exact default y absent.2
    · refine ⟨t, fun l' inside y same => ?_, fun y absent => ?_⟩
      · obtain rfl | inside := List.mem_cons.mp inside
        · exact absurd ⟨y, same⟩ known
        · exact writes l' inside y same
      · exact default y fun inside => absent (List.mem_cons_of_mem _ inside)

theorem isValue_of_writes {x : Setting} {value : List Char} {c : x.Content}
    (writes : x.Writes value c) : Toml.IsValue value := by
  cases writes with
  | seed written | layout written | wholeRate written | rate written | keyHoldMillis written
  | autostart written | logLevel written | logFile written => exact ⟨_, written.value? _⟩

theorem isValue_of_misfit {x : Setting} {value : List Char} (misfit : x.Misfit value) :
    Toml.IsValue value := by
  cases misfit with
  | boolean _ written => exact ⟨_, written.value? _⟩
  | integer written => exact ⟨_, written.value? _⟩
  | negative _ _ written => exact ⟨_, written.value? _⟩
  | unknown _ written => exact ⟨_, written.value? _⟩

theorem Fits.isValue {l : Toml.KeyLine} (fits : Fits l) : Toml.IsValue l.value := by
  by_cases known : ∃ x : Setting, l.key = x.key
  · obtain ⟨x, same⟩ := known
    obtain ⟨c, writes⟩ := fits.writes x same
    exact isValue_of_writes writes
  · exact fits.valid fun x same => known ⟨x, same⟩

/-- A value is written for one content of a setting at most. -/
theorem content_unique {x : Setting} {value : List Char} {c c' : x.Content}
    (writes : x.Writes value c) (writes' : x.Writes value c') : c = c' := by
  have bare : Toml.isBareKey x.key = true := by cases x <;> rfl
  let l : Toml.KeyLine := ⟨x.key, value, bare⟩
  obtain ⟨e, gives, _⟩ := Toml.lineStep_last (l := l) (isValue_of_writes writes)
  have first := field_of_writes gives rfl writes {}
  have second := field_of_writes gives rfl writes' {}
  have same := Except.ok.inj (first.symm.trans second)
  rw [← get_set {} x c, same, get_set]

/-- Lines that are written for some settings are read as those settings. -/
theorem ofText_of_written {lines : List Toml.KeyLine} {text : String}
    (made : Toml.MadeOf lines text.toList) (distinct : (lines.map (·.key)).Nodup)
    (valid : ∀ l ∈ lines, Toml.IsValue l.value) {t : Settings}
    (writes : ∀ l ∈ lines, ∀ x : Setting, l.key = x.key → x.Writes l.value (t.get x))
    (default : ∀ x : Setting, x.key ∉ lines.map (·.key) → t.get x = get {} x) :
    ofText text = .ok t := by
  obtain ⟨entries, give, document⟩ := Toml.document?_madeOf made valid
  obtain ⟨s, read, contents⟩ := fields_of_writes give writes {}
  have same : s = t := by
    refine ext_get fun x => ?_
    by_cases listed : x.key ∈ lines.map (·.key)
    · exact (contents x).1 listed
    · rw [(contents x).2 listed, default x listed]
  rw [if_pos distinct] at document
  rw [ofText, Toml.decodeText, document]
  dsimp only
  rw [read, same]
  rfl

/-- A line with a value that does not fit is enough for a text of lines to be refused. -/
theorem ofText_of_misfit {lines : List Toml.KeyLine} {text : String}
    (made : Toml.MadeOf lines text.toList) (valid : ∀ l ∈ lines, Toml.IsValue l.value)
    {l : Toml.KeyLine} (inside : l ∈ lines) {x : Setting} (same : l.key = x.key)
    (misfit : x.Misfit l.value) : ∃ e, ofText text = .error e := by
  obtain ⟨entries, give, document⟩ := Toml.document?_madeOf made valid
  rw [ofText, Toml.decodeText, document]
  split
  next => exact ⟨_, rfl⟩
  next read =>
    obtain ⟨_, here⟩ := Option.ite_none_right_eq_some.mp read
    cases here
    obtain ⟨e, isEntry, gives⟩ := Toml.exists_gives give inside
    obtain ⟨p, refused⟩ := Toml.fields_of_mem isEntry (field_of_misfit gives same misfit) {}
    rw [refused]
    exact ⟨_, rfl⟩

/-- The settings of a text of lines do not depend on each other and not on the order of the lines:
a setting with a line has what is written there, one without has its default, and every text of the
same lines in another order says the same.  One value of another type or out of range is enough
for the text to be refused, whatever the other lines say. -/
theorem each_line_sets_its_own_setting {lines : List Toml.KeyLine} {text : String}
    (made : Toml.MadeOf lines text.toList) :
    ((lines.map (·.key)).Nodup → (∀ l ∈ lines, Fits l) →
      ∃ s, ofText text = .ok s ∧
        (∀ x : Setting, (∀ l ∈ lines, l.key = x.key → x.Writes l.value (s.get x)) ∧
          (x.key ∉ lines.map (·.key) → s.get x = get {} x)) ∧
        ∀ (others : List Toml.KeyLine) (text' : String), others.Perm lines →
          Toml.MadeOf others text'.toList → ofText text' = .ok s) ∧
    ∀ l ∈ lines, ∀ x : Setting, l.key = x.key → x.Misfit l.value →
      (∀ other ∈ lines, other ≠ l → Toml.IsValue other.value) → ∃ e, ofText text = .error e := by
  constructor
  · intro distinct fit
    obtain ⟨t, writes, default⟩ := exists_written distinct fit
    have valid := fun l inside => (fit l inside).isValue
    refine ⟨t, ofText_of_written made distinct valid writes default,
      fun x => ⟨fun l inside => writes l inside x, default x⟩, fun others text' perm made' => ?_⟩
    refine ofText_of_written made' ((perm.map _).nodup_iff.mpr distinct)
      (fun l inside => valid l (perm.mem_iff.mp inside))
      (fun l inside => writes l (perm.mem_iff.mp inside)) fun x absent => ?_
    exact default x fun inside => absent ((perm.map _).mem_iff.mpr inside)
  · intro l inside x same misfit others
    refine ofText_of_misfit made (fun other inside' => ?_) inside same misfit
    by_cases here : other = l
    · exact here ▸ isValue_of_misfit misfit
    · exact others other inside' here

/-- A seed in hexadecimal, a key of no setting and a layout, in two orders and with all line ends;
and a number where a boolean is asked for. -/
theorem each_line_sets_its_own_setting_of_three_lines :
    (∃ s, ofText "seed = 0x2A\r\nnote = [1, 'two']\nlayout = \"literal\"" = .ok s ∧
      s.seed = some 42 ∧ s.layout = .literal ∧ s.keyHoldMillis = 150 ∧
      ofText "note = [1, 'two']\nlayout = \"literal\"\nseed = 0x2A\n" = .ok s) ∧
    ∃ e, ofText "seed = 0x2A\nautostart = 1" = .error e := by
  let seed : Toml.KeyLine := ⟨"seed", ['0', 'x', '2', 'A'], rfl⟩
  let note : Toml.KeyLine :=
    ⟨"note", ['[', '1', ',', ' ', '\'', 't', 'w', 'o', '\'', ']'], rfl⟩
  let layout : Toml.KeyLine :=
    ⟨"layout", ['"', 'l', 'i', 't', 'e', 'r', 'a', 'l', '"'], rfl⟩
  let autostart : Toml.KeyLine := ⟨"autostart", ['1'], rfl⟩
  have seedWrites : Setting.seed.Writes seed.value (some 42) := by
    have digits : Toml.Grouped Toml.isHexDigit ['2', 'A'] ['2', 'A'] :=
      .next (by decide) (.one (by decide))
    have value : ((42 : UInt64).toNat : Int) = Toml.numberOfDigits 16 ['2', 'A'] := by decide
    exact .seed (.integer (value ▸ .hexadecimal digits) (by decide))
  have layoutWrites : Setting.layout.Writes layout.value Layout.literal := by
    have name : Layout.literal.name = String.ofList ['l', 'i', 't', 'e', 'r', 'a', 'l'] := rfl
    refine .layout ?_
    rw [name]
    refine .text (.basic (s := ['l', 'i', 't', 'e', 'r', 'a', 'l']) ?_)
    repeat refine .char (by decide) ?_
    exact .nil
  have noteValue : Toml.IsValue note.value := by decide +kernel
  have autostartMisfit : Setting.autostart.Misfit autostart.value := by
    have digits : Toml.Whole ['1'] ['1'] := .digits (by decide) (.one (by decide))
    exact .integer (.integer (.decimal .none digits) (by decide))
  have fit : ∀ l ∈ [seed, note, layout], Fits l := by
    intro l inside
    obtain rfl | rfl | rfl : l = seed ∨ l = note ∨ l = layout := by simpa using inside
    · refine ⟨fun x same => ?_, fun other => absurd rfl (other .seed)⟩
      cases Setting.key_inj.mp (show Setting.seed.key = x.key from same)
      exact ⟨_, seedWrites⟩
    · exact ⟨fun x same => absurd same (by cases x <;> decide), fun _ => noteValue⟩
    · refine ⟨fun x same => ?_, fun other => absurd rfl (other .layout)⟩
      cases Setting.key_inj.mp (show Setting.layout.key = x.key from same)
      exact ⟨_, layoutWrites⟩
  constructor
  · have made : Toml.MadeOf [seed, note, layout]
        "seed = 0x2A\r\nnote = [1, 'two']\nlayout = \"literal\"".toList := by
      have text : "seed = 0x2A\r\nnote = [1, 'two']\nlayout = \"literal\"".toList =
          seed.text ++ (['\r', '\n'] ++ (note.text ++ (['\n'] ++ layout.text))) := by decide +kernel
      rw [text]
      exact .line .carriageReturn (.line .feed (.last layout))
    have made' : Toml.MadeOf [note, layout, seed]
        "note = [1, 'two']\nlayout = \"literal\"\nseed = 0x2A\n".toList :=
      .of_lines (by decide +kernel)
    have perm : ([note, layout] ++ [seed]).Perm ([seed] ++ [note, layout]) :=
      List.perm_append_comm
    obtain ⟨s, read, contents, orders⟩ :=
      (each_line_sets_its_own_setting made).1 (by decide) fit
    refine ⟨s, read, ?_, ?_, ?_, orders _ _ perm made'⟩
    · exact content_unique ((contents .seed).1 seed (by simp) rfl) seedWrites
    · exact content_unique ((contents .layout).1 layout (by simp) rfl) layoutWrites
    · exact (contents .keyHoldMillis).2 (by decide)
  · have made : Toml.MadeOf [seed, autostart] "seed = 0x2A\nautostart = 1".toList := by
      have text : "seed = 0x2A\nautostart = 1".toList =
          seed.text ++ (['\n'] ++ autostart.text) := by decide +kernel
      rw [text]
      exact .line .feed (.last autostart)
    refine (each_line_sets_its_own_setting made).2 autostart (by simp) .autostart rfl
      autostartMisfit fun other inside differ => ?_
    obtain rfl : other = seed := by simpa [differ] using inside
    exact isValue_of_writes seedWrites

end Settings

end VipHost
