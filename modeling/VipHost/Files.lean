import VipHost.Machine.Memory
import VipHost.Text.Quoted

/-!
# Files and failures of input and output

Files in a tree of directories, and what goes wrong when one is opened, read or
created.

A path is a text of steps with slashes between them.  It is walked step by step,
from the root if it begins with a slash and else from the working directory
(`Files.walk`).  An empty step and `.` stay in a directory and `..` goes up; any
other step names something in the directory.  The first step that cannot be
taken decides what goes wrong, so a name that is too long does no harm after one
that is not there.

The tree has the usual directories of a system, which are never made or removed,
and the empty file `/dev/null`, which drops what is written to it.
-/

namespace VipHost

/-! ## Failures -/

/-- The kinds of failure. -/
inductive IoKind where
  | notFound
  | notADirectory
  | isADirectory
  | invalidFilename
  | invalidInput
  | invalidData
  | unexpectedEof
  | brokenPipe
  | timedOut
  | writeZero
  | interrupted
deriving DecidableEq, Repr

/-- The name of a kind. -/
def IoKind.name : IoKind → String
  | .notFound => "NotFound"
  | .notADirectory => "NotADirectory"
  | .isADirectory => "IsADirectory"
  | .invalidFilename => "InvalidFilename"
  | .invalidInput => "InvalidInput"
  | .invalidData => "InvalidData"
  | .unexpectedEof => "UnexpectedEof"
  | .brokenPipe => "BrokenPipe"
  | .timedOut => "TimedOut"
  | .writeZero => "WriteZero"
  | .interrupted => "Interrupted"

/-- A failure of input or output. -/
inductive IoError where
  /-- The system reports a failure by number. -/
  | system (code : Nat) (kind : IoKind) (text : String)
  /-- A reader or a display reports a failure of its own. -/
  | custom (kind : IoKind) (text : String)
  /-- What was read is not what it should be. -/
  | unusable (kind : IoKind) (text : String)
deriving DecidableEq, Repr

namespace IoError

/-- The kind of a failure. -/
def kind : IoError → IoKind
  | .system _ kind _ => kind
  | .custom kind _ => kind
  | .unusable kind _ => kind

/-- What is said about a failure. -/
def message : IoError → String
  | .system code _ text => text ++ " (os error " ++ toString code ++ ")"
  | .custom _ text => text
  | .unusable _ text => text

/-- A failure with all its parts. -/
def details : IoError → String
  | .system code kind text =>
    "Os \x7b code: " ++ toString code ++ ", kind: " ++ kind.name ++ ", message: " ++
      Text.quoted text ++ " \x7d"
  | .custom kind text =>
    "Custom \x7b kind: " ++ kind.name ++ ", error: " ++ Text.quoted text ++ " \x7d"
  | .unusable kind text =>
    "Error \x7b kind: " ++ kind.name ++ ", message: " ++ Text.quoted text ++ " \x7d"

/-- There is no such file. -/
def notFound : IoError := .system 2 .notFound "No such file or directory"

/-- A step of the path goes through a file. -/
def notADirectory : IoError := .system 20 .notADirectory "Not a directory"

/-- A directory stands where a file is wanted. -/
def isADirectory : IoError := .system 21 .isADirectory "Is a directory"

/-- A step of the path is too long. -/
def nameTooLong : IoError := .system 36 .invalidFilename "File name too long"

/-- The path holds a character no name can have. -/
def nulInName : IoError :=
  .unusable .invalidInput "file name contained an unexpected NUL byte"

/-- A text file holds bytes that are no text. -/
def notText : IoError := .unusable .invalidData "stream did not contain valid UTF-8"

end IoError

/-! ## Files -/

/-- What comes of reading the file at a path. -/
abbrev FileReader := String → Except IoError Bytes

/-- A file or directory by the names on the way to it from the root, the last
one first. -/
abbrev Location := List String

namespace Location

/-- The directory in which paths begin.  It lies with other temporary things and
has a name that no step can spell. -/
def working : Location := ["", "tmp"]

/-- The directories. -/
def directories : List Location :=
  [working, []] ++
    ["bin", "boot", "dev", "etc", "home", "lib", "media", "mnt", "opt", "proc", "root", "run",
      "sbin", "srv", "sys", "tmp", "usr", "var"].map ([·])

/-- The file that is always empty. -/
def null : Location := ["null", "dev"]

end Location

/-- Files with their contents. -/
structure Files where
  /-- Locations and contents, each location once. -/
  entries : List (Location × Bytes) := []
deriving Inhabited

namespace Files

/-- The contents of the file at a location. -/
def find? (f : Files) (l : Location) : Option Bytes :=
  if l = .null then some #[] else f.entries.lookup l

/-- The files without the one at a location. -/
def erase (f : Files) (l : Location) : Files := ⟨f.entries.filter (·.1 ≠ l)⟩

/-- The files with the contents at a location set. -/
def insert (f : Files) (l : Location) (contents : Bytes) : Files :=
  ⟨(l, contents) :: (f.erase l).entries⟩

/-- Where a path leads. -/
inductive Place where
  /-- To a directory. -/
  | directory
  /-- To a file. -/
  | file (l : Location) (contents : Bytes)
  /-- To a name in a directory that nothing has. -/
  | vacant (l : Location)
  /-- Nowhere. -/
  | nowhere (e : IoError)
deriving DecidableEq, Repr

/-- Take some steps from a directory. -/
def walk (f : Files) (here : Location) : List String → Place
  | [] => .directory
  | step :: steps =>
    if step = "" || step = "." then f.walk here steps
    else if step = ".." then f.walk here.tail steps
    else if 255 < step.utf8ByteSize then .nowhere .nameTooLong
    else if Location.directories.contains (step :: here) then f.walk (step :: here) steps
    else match f.find? (step :: here), steps with
    | some contents, [] => .file (step :: here) contents
    | some _, _ => .nowhere .notADirectory
    | none, [] => .vacant (step :: here)
    | none, _ => .nowhere .notFound

/-- The steps of a path. -/
def steps (path : String) : List String := (path.toList.splitOn '/').map String.ofList

/-- Follow a path, or the beginning of it with these steps.  A path as a whole
has at least one character and fewer than 4096 bytes, none of which is NUL. -/
def follow (f : Files) (path : String) (steps : List String) : Place :=
  if path.toList.contains '\x00' then .nowhere .nulInName
  else if path = "" then .nowhere .notFound
  else if 4096 ≤ path.utf8ByteSize then .nowhere .nameTooLong
  else f.walk (if path.startsWith "/" then [] else .working) steps

/-- Where a path leads. -/
def place (f : Files) (path : String) : Place := f.follow path (steps path)

/-- The contents of the file at a path. -/
def read (f : Files) : FileReader := fun path =>
  match f.place path with
  | .directory => .error .isADirectory
  | .file _ contents => .ok contents
  | .vacant _ => .error .notFound
  | .nowhere e => .error e

/-- The location at which a path creates a file, or finds one to be emptied.  A
slash at the end asks for a directory, and then only the steps in front of the
last name are taken. -/
def create (f : Files) (path : String) : Except IoError Location :=
  let names := ((steps path).reverse.dropWhile (· = "")).reverse
  let place :=
    if names.length < (steps path).length then f.follow path (names.dropLast ++ ["."])
    else f.place path
  match place with
  | .directory => .error .isADirectory
  | .file l _ => .ok l
  | .vacant l => .ok l
  | .nowhere e => .error e

/-- The files after the one at a path was written; the same files if it cannot
be. -/
def write (f : Files) (path : String) (contents : Bytes) : Files :=
  match f.create path with
  | .ok l => f.insert l contents
  | .error _ => f

/-- The files after the one at a path was removed. -/
def remove (f : Files) (path : String) : Files :=
  match f.place path with
  | .file l _ => f.erase l
  | _ => f

/-- Whether two paths lead to the same file, or will once it is there.  Nothing
written to `/dev/null` is found there. -/
def same (f : Files) (p q : String) : Bool :=
  match location? p, location? q with
  | some l, some m => l = m && l ≠ .null
  | _, _ => false
where
  /-- The location of a file or of a name that nothing has. -/
  location? (path : String) : Option Location :=
    match f.place path with
    | .file l _ => some l
    | .vacant l => some l
    | _ => none

end Files

/-- The text that bytes stand for. -/
def textOfBytes (bytes : Bytes) : Except IoError String :=
  match String.fromUTF8? ⟨bytes⟩ with
  | some s => .ok s
  | none => .error .notText

end VipHost
