import VipHost.Files
import VipHost.Keypad.Layout
import VipHost.Log.Event
import VipHost.Toml.Diagnostic

/-!
# Settings

What a user can set in a TOML file.  Every setting has a default, so an empty
file, or no file, gives the defaults; a file that sets some of them leaves the
others as they are.
-/

namespace VipHost

/-- The settings of the host. -/
structure Settings where
  /-- Where the random numbers of the machine start; by the clock if absent. -/
  seed : Option UInt64 := none
  /-- Which keyboard characters stand for the keypad. -/
  layout : Layout := .conventional
  /-- Refreshes of the display in a second. -/
  refreshRate : Binary64 := .ofNat 60
  /-- How long a key is held on terminals that report no releases, in
  milliseconds. -/
  keyHoldMillis : UInt64 := 150
  /-- Whether the pump starts as soon as the program is loaded. -/
  autostart : Bool := true
  /-- Which log events are shown. -/
  logLevel : String := "info"
  /-- The file the log goes to; the error output if absent. -/
  logFile : Option String := none
deriving DecidableEq, Repr, Inhabited

namespace Settings

/-- Why settings cannot be had. -/
inductive Error where
  | io (e : IoError)
  | toml (e : Toml.Error)
deriving DecidableEq, Repr

/-- How long a key is held, in microseconds. -/
def keyHoldMicros (s : Settings) : Nat := s.keyHoldMillis.toNat * 1000

/-- The settings with one more entry of a document.  Other keys are passed
over. -/
def field (s : Settings) (entry : Toml.Entry) : Except Toml.Problem Settings :=
  match entry.1.name with
  | "seed" => (Toml.atKey entry Toml.natural64).map fun seed => { s with seed := some seed }
  | "layout" =>
    let names := [Layout.conventional.name, Layout.literal.name]
    (Toml.atKey entry (Toml.oneOf names Layout.ofName?)).map fun layout => { s with layout }
  | "refresh_rate" =>
    (Toml.atKey entry Toml.float).map fun refreshRate => { s with refreshRate }
  | "key_hold_ms" =>
    (Toml.atKey entry Toml.natural64).map fun keyHoldMillis => { s with keyHoldMillis }
  | "autostart" => (Toml.atKey entry Toml.boolean).map fun autostart => { s with autostart }
  | "log_level" => (Toml.atKey entry Toml.text).map fun logLevel => { s with logLevel }
  | "log_file" => (Toml.atKey entry Toml.path).map fun file => { s with logFile := some file }
  | _ => .ok s

/-- The settings a text stands for. -/
def ofText (text : String) : Except Toml.Error Settings := Toml.decodeText field {} text

/-- Read the settings at a path; without a path they are the defaults. -/
def load (read : FileReader) (path : Option String) : Logged (Except Error Settings) :=
  match path with
  | none => return .ok {}
  | some path => do
    Logged.say
      { level := .info, source := .settings, message := "reading config"
        fields := [("path", Text.quoted path)] }
    return do
      let text ← ((read path).bind textOfBytes).mapError .io
      (ofText text).mapError .toml

/-- Whether two settings are the same.  A rate that is not a number is not the
same as any. -/
def same (s t : Settings) : Bool :=
  s.refreshRate.sameNumber t.refreshRate && { s with refreshRate := t.refreshRate } = t

end Settings

end VipHost
