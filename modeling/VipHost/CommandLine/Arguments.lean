import VipHost.Keypad.Layout
import VipHost.Text.ControlSequence

/-!
# Arguments

What a user asks for when starting the program: a program image, and options
with a value each.  An option is written `--seed 5`, `--seed=5`, `-s 5`, `-s5`
or `-s=5`; after `--` nothing is an option.

Arguments are taken in order.  A value is looked at when the next option or the
image begins, or when the arguments end; so of two faults the first is reported,
except that an argument nobody asked for is reported before a bad value right in
front of it.
-/

namespace VipHost.CommandLine

/-- What can be given a value. -/
inductive Slot where
  | image
  | settings
  | seed
  | registers
  | layout
  | logFile
deriving DecidableEq, Repr

namespace Slot

/-- The options, each with its letter if it has one. -/
def options : List (String × Option Char × Slot) :=
  [("config", some 'c', .settings), ("seed", some 's', .seed),
    ("registers", some 'r', .registers), ("layout", some 'l', .layout),
    ("log-file", none, .logFile)]

/-- The slot as messages show it. -/
def label : Slot → String
  | .image => "<ROM>"
  | .settings => "--config <CONFIG>"
  | .seed => "--seed <SEED>"
  | .registers => "--registers <REGISTERS>"
  | .layout => "--layout <LAYOUT>"
  | .logFile => "--log-file <LOG_FILE>"

end Slot

/-- What is wrong with arguments. -/
inductive UsageError where
  /-- There is no image. -/
  | noImage
  /-- An argument that nobody asked for. -/
  | unexpected (argument : String)
  /-- An option without its value. -/
  | noValue (slot : Slot)
  /-- A value that does not fit. -/
  | badValue (slot : Slot) (value reason : String)
  /-- An option given twice. -/
  | repeated (slot : Slot)
  /-- A value for an option that has none. -/
  | unexpectedValue (option value : String)
deriving DecidableEq, Repr

/-- What is said about wrong arguments on a terminal, where texts of the user are
set off. -/
def UsageError.display : UsageError → String
  | .noImage => "the following required arguments were not provided:"
  | .unexpected argument => "unexpected argument '" ++ Text.setOff argument ++ "' found"
  | .noValue slot => "a value is required for '" ++ slot.label ++ "' but none was supplied"
  | .badValue slot value reason =>
    "invalid value '" ++ Text.setOff value ++ "' for '" ++ slot.label ++ "': " ++ reason
  | .repeated slot => "the argument '" ++ slot.label ++ "' cannot be used multiple times"
  | .unexpectedValue option value =>
    "unexpected value '" ++ Text.setOff value ++ "' for '" ++ option ++
      "' found; no more were expected"

/-- What is said about wrong arguments elsewhere, where nothing can be set off:
all control sequences are taken out, those in texts of the user too. -/
def UsageError.message (e : UsageError) : String := Text.shown e.display

/-- The values given. -/
structure Values where
  /-- The program image. -/
  image : Option String := none
  /-- The file with the settings. -/
  settings : Option String := none
  /-- Where random numbers start. -/
  seed : Option UInt64 := none
  /-- The file with a register snapshot. -/
  registers : Option String := none
  /-- The layout. -/
  layout : Option Layout := none
  /-- The file the log goes to. -/
  logFile : Option String := none
deriving DecidableEq, Repr, Inhabited

/-- Whether a slot has its value. -/
def Values.has (v : Values) : Slot → Bool
  | .image => v.image.isSome
  | .settings => v.settings.isSome
  | .seed => v.seed.isSome
  | .registers => v.registers.isSome
  | .layout => v.layout.isSome
  | .logFile => v.logFile.isSome

/-- What the user wants to know in place of running a program. -/
inductive Notice where
  | help
  | version
deriving DecidableEq, Repr

/-! ## Values -/

/-- Why a text is no number of 64 bits. -/
inductive NumberError where
  | empty
  | notADigit
  | tooLarge
deriving DecidableEq, Repr

/-- What is said about a text that is no number. -/
def NumberError.message : NumberError → String
  | .empty => "cannot parse integer from empty string"
  | .notADigit => "invalid digit found in string"
  | .tooLarge => "number too large to fit in target type"

/-- A number of 64 bits in decimal, perhaps after a plus sign.  Of two faults the
first one counts. -/
def numberOfText (s : String) : Except NumberError UInt64 :=
  match s.toList with
  | [] => .error .empty
  | ['+'] => .error .notADigit
  | '+' :: digits => (digits.foldlM digit 0).map UInt64.ofNat
  | digits => (digits.foldlM digit 0).map UInt64.ofNat
where
  /-- A number with one more digit. -/
  digit (n : Nat) (c : Char) : Except NumberError Nat :=
    if !c.isDigit then .error .notADigit
    else
      let n := n * 10 + (c.toNat - '0'.toNat)
      if n < UInt64.size then .ok n else .error .tooLarge

/-- A path, which is not empty. -/
def pathOfText (slot : Slot) (value : String) : Except UsageError String :=
  if value = "" then .error (.noValue slot) else .ok value

/-- The values with one more. -/
def Values.set (v : Values) (slot : Slot) (value : String) : Except UsageError Values :=
  if v.has slot then .error (.repeated slot)
  else match slot with
  | .image => (pathOfText slot value).map fun path => { v with image := some path }
  | .settings => (pathOfText slot value).map fun path => { v with settings := some path }
  | .seed =>
    match numberOfText value with
    | .ok n => .ok { v with seed := some n }
    | .error e => .error (.badValue slot value e.message)
  | .registers => (pathOfText slot value).map fun path => { v with registers := some path }
  | .layout =>
    match Layout.ofText value with
    | .ok l => .ok { v with layout := some l }
    | .error e => .error (.badValue slot value e.message)
  | .logFile => (pathOfText slot value).map fun path => { v with logFile := some path }

/-! ## Arguments in order -/

/-- What is known after some of the arguments. -/
structure Progress where
  /-- The values looked at. -/
  values : Values := {}
  /-- A slot whose value is not looked at yet, and the value if it came. -/
  pending : Option (Slot × Option String) := none
  /-- Whether the image came. -/
  hasImage : Bool := false
  /-- Whether nothing is an option any more. -/
  onlyImages : Bool := false
deriving Inhabited

/-- Why arguments are not taken further. -/
inductive Stop where
  | notice (n : Notice)
  | wrong (e : UsageError)
deriving DecidableEq, Repr

namespace Progress

/-- Look at the pending value. -/
def settle (p : Progress) : Except Stop Progress :=
  match p.pending with
  | none => .ok p
  | some (slot, none) => .error (.wrong (.noValue slot))
  | some (slot, some value) =>
    match p.values.set slot value with
    | .ok values => .ok { p with values, pending := none }
    | .error e => .error (.wrong e)

/-- An option, with the value written in the same argument if there is one. -/
def option (p : Progress) (slot : Slot) (attached : Option String) : Except Stop Progress := do
  let p ← p.settle
  match attached with
  | some value => settle { p with pending := some (slot, some value) }
  | none => return { p with pending := some (slot, none) }

/-- A wish to know something. -/
def wish (p : Progress) (n : Notice) : Except Stop Progress := do
  let _ ← p.settle
  throw (.notice n)

/-- An argument that is no option. -/
def plain (p : Progress) (argument : String) : Except Stop Progress :=
  match p.pending, p.onlyImages with
  | some (slot, none), false => .ok { p with pending := some (slot, some argument) }
  | _, _ =>
    if p.hasImage then .error (.wrong (.unexpected argument))
    else do
      let p ← p.settle
      return { p with pending := some (.image, some argument), hasImage := true }

/-- An argument after two dashes. -/
def long (p : Progress) (rest : List Char) : Except Stop Progress :=
  let name := String.ofList (rest.takeWhile (· ≠ '='))
  let attached := match rest.dropWhile (· ≠ '=') with
    | _ :: value => some (String.ofList value)
    | [] => none
  let notice (n : Notice) : Except Stop Progress :=
    match attached with
    | some value => .error (.wrong (.unexpectedValue ("--" ++ name) value))
    | none => p.wish n
  match Slot.options.find? (·.1 = name) with
  | some (_, _, slot) => p.option slot attached
  | none =>
    if name = "help" then notice .help
    else if name = "version" then notice .version
    else .error (.wrong (.unexpected ("--" ++ name)))

/-- An argument after one dash: a letter, and then perhaps its value. -/
def short (p : Progress) (letter : Char) (rest : List Char) : Except Stop Progress :=
  let attached := match rest with
    | [] => none
    | '=' :: value => some (String.ofList value)
    | value => some (String.ofList value)
  match Slot.options.find? (·.2.1 = some letter) with
  | some (_, _, slot) => p.option slot attached
  | none =>
    if letter = 'h' then p.wish .help
    else if letter = 'V' then p.wish .version
    else .error (.wrong (.unexpected (String.ofList ['-', letter])))

/-- One more argument. -/
def add (p : Progress) (argument : String) : Except Stop Progress :=
  if p.onlyImages then p.plain argument
  else match argument.toList with
  | ['-', '-'] => .ok { p with onlyImages := true }
  | '-' :: '-' :: rest => p.long rest
  | '-' :: letter :: rest => p.short letter rest
  | _ => p.plain argument

end Progress

/-- What a user asks for. -/
structure Arguments where
  /-- The program image. -/
  image : String
  /-- All values, the image included. -/
  values : Values
deriving DecidableEq, Repr

/-- The arguments of a program start. -/
def Arguments.ofTexts (arguments : List String) : Except Stop Arguments := do
  let p ← arguments.foldlM Progress.add {}
  let p ← p.settle
  match p.values.image with
  | some image => return ⟨image, p.values⟩
  | none => throw (.wrong .noImage)

end VipHost.CommandLine
