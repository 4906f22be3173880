import VipHost.CommandLine.Setup

/-!
# The program

The outer layer: arguments, environment and files come in, texts and an exit
code go out.
-/

namespace VipHost.Program

/-- A failure of the system as the host reports it. -/
def ioError (e : IO.Error) : IoError :=
  match e with
  | .noFileOrDirectory _ _ _ => .notFound
  | .inappropriateType _ code _ => if code = 21 then .isADirectory else .notADirectory
  | e => .custom .invalidInput (toString e)

/-- The contents of a file. -/
def readFile (path : String) : IO (Except IoError Bytes) := do
  match ← (IO.FS.readBinFile path).toBaseIO with
  | .ok contents => return .ok contents.data
  | .error e => return .error (ioError e)

/-- Create a file, or empty it. -/
def createFile (path : String) : IO (Except IoError Unit) := do
  match ← (IO.FS.writeFile path "").toBaseIO with
  | .ok _ => return .ok ()
  | .error e => return .error (ioError e)

/-- What comes of reading each of some files. -/
def readFiles (paths : List String) : IO FileReader := do
  let contents ← paths.mapM fun path => return (path, ← readFile path)
  return fun path => (contents.lookup path).getD (.error .notFound)

/-- The path of the log file, if the program gets as far as opening it. -/
def logPath (read : FileReader) (logFilter : Option String) (a : CommandLine.Arguments) :
    Option String :=
  match (Settings.load read a.values.settings).value with
  | .error _ => none
  | .ok settings =>
    match CommandLine.chooseFilter logFilter settings.logLevel with
    | .error _ => none
    | .ok _ => (CommandLine.overridden settings a.values).logFile

/-- The name of a file without detours, or the path itself if there is none. -/
def fullName (path : String) : IO String := do
  match ← (IO.FS.realPath path).toBaseIO with
  | .ok name => return name.toString
  | .error _ => return path

/-- All that a program start depends on. -/
def surroundings (arguments : List String) : IO CommandLine.Surroundings := do
  let logFilter ← IO.getEnv "RUST_LOG"
  let clock ← IO.monoNanosNow
  let base : CommandLine.Surroundings :=
    { read := fun _ => .error .notFound
      create := fun _ => .ok ()
      same := fun p q => p = q
      now := clock / 1000
      logFilter
      clockSeed := UInt64.ofNat clock }
  match CommandLine.Arguments.ofTexts arguments with
  | .error _ => return base
  | .ok a =>
    let paths := [a.image] ++ a.values.settings.toList ++ a.values.registers.toList
    let read ← readFiles paths
    let log? := logPath read logFilter a
    let created ← match log? with
      | some path => createFile path
      | none => pure (.ok ())
    let names ← (paths ++ log?.toList).mapM fun path => return (path, ← fullName path)
    return { base with
      read
      create := fun _ => created
      same := fun p q => (names.lookup p).getD p = (names.lookup q).getD q }

end VipHost.Program

/-- Start the program.  There is no terminal to draw on, so it ends before the
first picture. -/
def main (arguments : List String) : IO UInt32 := do
  let world ← VipHost.Program.surroundings arguments
  let outcome := VipHost.CommandLine.start world arguments
  if let some (path, text) := outcome.logFile then
    IO.FS.writeFile path text
  IO.print outcome.out
  IO.eprint outcome.err
  match outcome.code with
  | some code => return UInt32.ofNat code
  | none =>
    IO.eprintln "Error: there is no terminal"
    return 1
