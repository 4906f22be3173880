import VipHost.CommandLine.Arguments
import VipHost.Host
import VipHost.Log.Filter
import VipHost.Settings

/-!
# Setting up a run

Everything between the arguments and the first picture: settings are read and
overridden by arguments, the log is opened, a host is made, the image is loaded
and a register snapshot applied.  Each step may end the program; what was said
until then still goes to the log.

The log is written while all this happens, so an image or a snapshot that is the
log file itself holds what was said before it was read (`readDuring`).
-/

namespace VipHost.CommandLine

/-- What is shown for `--help`. -/
def helpText : String :=
  "Run a CHIP-8 program in the terminal\n\n" ++
  "Usage: chip8-host [OPTIONS] <ROM>\n\n" ++
  "Arguments:\n" ++
  "  <ROM>  program image to load at 0x200\n\n" ++
  "Options:\n" ++
  "  -c, --config <CONFIG>        TOML settings file\n" ++
  "  -s, --seed <SEED>            seed for the core's random number generator\n" ++
  "  -r, --registers <REGISTERS>  TOML register snapshot applied after loading\n" ++
  "  -l, --layout <LAYOUT>        host keys for the hex keypad: conventional or literal\n" ++
  "      --log-file <LOG_FILE>    write the log here instead of stderr\n" ++
  "  -h, --help                   Print help\n" ++
  "  -V, --version                Print version\n"

/-- What is shown for `--version`. -/
def versionText : String := "chip8-host 0.1.0\n"

/-- What a program start depends on besides its arguments. -/
structure Surroundings where
  /-- What comes of reading a file. -/
  read : FileReader
  /-- What comes of creating a file, or emptying it if it is there. -/
  create : String → Except IoError Unit
  /-- Whether two paths lead to the same file once both are there. -/
  same : String → String → Bool
  /-- The time, in microseconds since the beginning of 1970. -/
  now : Nat := 0
  /-- A log filter that goes before the one in the settings. -/
  logFilter : Option String := none
  /-- Where random numbers start if nothing else is said. -/
  clockSeed : UInt64 := 0

/-- A host that is ready for its first picture. -/
structure Ready where
  /-- The host. -/
  host : Host
  /-- The settings, arguments included. -/
  settings : Settings

/-- Why a program start fails, with all parts of the failure. -/
inductive Failure where
  | settings (e : Settings.Error)
  | filter (e : Log.FilterError)
  | io (e : IoError)
  | host (e : HostError)
deriving DecidableEq, Repr

/-- A failure as it is shown when the program ends. -/
def Failure.details : Failure → String
  | .settings (.io e) => "Io(" ++ e.details ++ ")"
  | .settings (.toml e) => "Config(" ++ e.details ++ ")"
  | .filter e => e.details
  | .io e => e.details
  | .host (.io e) => "Io(" ++ e.details ++ ")"
  | .host (.registers e) => "Registers(" ++ e.details ++ ")"
  | .host (.oversized e) =>
    "OversizedProgram(OversizedProgram \x7b size: " ++ toString e.size ++ ", capacity: " ++
      toString e.capacity ++ " \x7d)"

/-- The settings with what the arguments say otherwise. -/
def overridden (s : Settings) (v : Values) : Settings :=
  { s with
    seed := v.seed <|> s.seed
    layout := v.layout.getD s.layout
    logFile := v.logFile <|> s.logFile }

/-- The filter of the surroundings, unless there is none or it cannot be read;
then the one of the settings. -/
def chooseFilter (surroundings : Option String) (settings : String) :
    Except Log.FilterError Log.Filter :=
  match surroundings.map Log.Filter.ofText with
  | some (.ok f) => .ok f
  | _ => Log.Filter.ofText settings

/-- Open the log: the filter that chooses its events. -/
def openLog (world : Surroundings) (settings : Settings) : Except Failure Log.Filter := do
  let filter ← (chooseFilter world.logFilter settings.logLevel).mapError .filter
  match settings.logFile with
  | none => return filter
  | some path => do
    (world.create path).mapError .io
    return filter

/-- The lines of the events a filter shows. -/
def logText (now : Nat) (filter : Log.Filter) (events : List Log.Event) : String :=
  String.join ((events.filter filter.shows).map fun e => e.line now ++ "\n")

/-- Reading files when the log stands at some text, perhaps in one of them. -/
def readDuring (world : Surroundings) (logFile : Option String) (log : String) : FileReader :=
  fun path => if logFile.any (world.same path) then .ok log.toUTF8.data else world.read path

/-- Apply a register snapshot. -/
def applySnapshot (host : Host) (read : FileReader) (path : Option String) :
    Logged (Except Failure Host) :=
  match path with
  | none => return .ok host
  | some path =>
    match (read path).bind textOfBytes with
    | .error e => return .error (.io e)
    | .ok text => do
      let (result, host) ← host.writeSnapshot text
      match result with
      | .error e => return .error (.host e)
      | .ok registers =>
        Logged.say
          { level := .info, source := .program, message := "registers applied"
            fields := [("registers", registers.details)] }
        return .ok host

/-- Load the image into a host and apply the snapshot.  What comes of reading a
file may depend on the events on the way there, of which `said` are those
before. -/
def prepare (readAfter : List Log.Event → FileReader) (settings : Settings)
    (said : List Log.Event) (host : Host) (a : Arguments) : Logged (Except Failure Ready) :=
  let opened := host.openFile (readAfter (said ++ [Host.readingProgram a.image])) a.image
  do
    let (loaded, host) ← opened
    match loaded with
    | .error e =>
      Logged.say
        { level := .error, source := .program, message := "can't load program"
          fields := [("rom", Text.quoted a.image), ("e", e.message)] }
      return .error (.host e)
    | .ok () =>
      let result ← applySnapshot host (readAfter (said ++ opened.events)) a.values.registers
      return result.map fun host => ⟨host, settings⟩

/-- Make the host and prepare it. -/
def setUp (readAfter : List Log.Event → FileReader) (settings : Settings) (clockSeed : UInt64)
    (a : Arguments) : Logged (Except Failure Ready) :=
  let made := Host.start (settings.seed.getD clockSeed) settings.layout
  made >>= fun host => prepare readAfter settings made.events host a

/-- How a program start ended, and what was written. -/
structure Outcome where
  /-- The exit code, unless the program goes on to its first picture. -/
  code : Option Nat
  /-- What was written to the output. -/
  out : String := ""
  /-- What was written to the error output. -/
  err : String := ""
  /-- The path of the log file and the text written to it. -/
  logFile : Option (String × String) := none
  /-- The host, if the program goes on. -/
  ready : Option Ready := none

/-- An outcome with nothing but a failure. -/
def Outcome.failed (e : Failure) : Outcome :=
  { code := some 1, err := "Error: " ++ e.details ++ "\n" }

/-- Start the program with arguments that were understood. -/
def startWith (world : Surroundings) (a : Arguments) : Outcome :=
  match (Settings.load world.read a.values.settings).value with
  | .error e => .failed (.settings e)
  | .ok settings =>
    let settings := overridden settings a.values
    match openLog world settings with
    | .error e => .failed e
    | .ok filter =>
      let logAfter := logText world.now filter
      let readAfter := fun events => readDuring world settings.logFile (logAfter events)
      let prepared := setUp readAfter settings world.clockSeed a
      let log := logAfter prepared.events
      let logFile := settings.logFile.map (·, log)
      let logged := if settings.logFile.isSome then "" else log
      match prepared.value with
      | .error e =>
        { code := some 1, err := logged ++ "Error: " ++ e.details ++ "\n", logFile }
      | .ok ready => { code := none, err := logged, logFile, ready := some ready }

/-- Start the program. -/
def start (world : Surroundings) (arguments : List String) : Outcome :=
  match Arguments.ofTexts arguments with
  | .error (.notice .help) => { code := some 0, out := helpText }
  | .error (.notice .version) => { code := some 0, out := versionText }
  | .error (.wrong e) => { code := some 2, err := "error: " ++ e.message ++ "\n" }
  | .ok a => startWith world a

end VipHost.CommandLine
