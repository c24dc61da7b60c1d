import SshConfig.CommandLine.Account
import SshConfig.CommandLine.Run

namespace SshConfig

/-! The program as it is started: facts about the machine are gathered, and the report is
printed. -/

/-- The number of a system error, which the system gives with either sign. -/
def errorNumber (code : UInt32) : Nat :=
  if code < 0x80000000 then code.toNat else 0x100000000 - code.toNat

/-- The system error with a number. -/
def systemError (number : Nat) (description : String) : SystemError :=
  match number with
  | 2 => .notFound
  | 13 => .permissionDenied
  | 20 => .notADirectory
  | 21 => .isADirectory
  | 36 => .nameTooLong
  | _ => .other number description

/-- The system error that an exception of file access stands for. -/
def systemErrorOf : IO.Error → SystemError
  | .noFileOrDirectory .. => .notFound
  | .permissionDenied _ code description | .inappropriateType _ code description
  | .invalidArgument _ code description | .resourceExhausted _ code description
  | .noSuchThing _ code description | .interrupted _ code description
  | .resourceBusy code description | .hardwareFault code description
  | .timeExpired code description | .otherError code description =>
      systemError (errorNumber code) description
  | error => systemError 5 (toString error)

/-- Reads a file. -/
def readFile (path : Path) : IO (Except ReadFailure Bytes) := do
  if path.contains '\x00' then return .error .invalidInput
  try
    let content ← IO.FS.readBinFile (String.ofList path)
    return .ok content.toList
  catch error => return .error (systemErrorOf error).readFailure

/-- The text of a file, or nothing. -/
def readText (path : String) : IO Text := do
  match ← readFile path.toList with
  | .ok content => return Text.decode content
  | .error _ => return []

/-- Creates an empty file. -/
def createFile (path : Path) : IO (Except SystemError Unit) := do
  try
    let _ ← IO.FS.Handle.mk (String.ofList path) .write
    return .ok ()
  catch error => return .error (systemErrorOf error)

/-- Files that were read. -/
abbrev FilesRead := List (Path × Except ReadFailure Bytes)

/-- Files that were read, as files to be found by path. -/
def FilesRead.fileSystem (files : FilesRead) : FileSystem := fun path =>
  (files.lookup path).getD (.error .notFound)

/-- Whether reading failed for want of the file. -/
def isAbsent : Except ReadFailure Bytes → Bool
  | .error .notFound | .error .notADirectory => true
  | _ => false

/-- Files that were read, as a disk. -/
def FilesRead.disk (files : FilesRead) : Disk where
  files := files.fileSystem
  isPresent := fun path => (files.lookup path).any fun content => !isAbsent content

/-- Reads the files that the configuration at a path consists of.  Parsing stops at the
first file that was not read; it is read, and parsing is tried again. -/
partial def gather (home : Homes) (path : Path) (files : FilesRead) : IO FilesRead := do
  match parseFile { files := files.fileSystem, home } path with
  | .error { cause := .unreadable _ written resolved _, .. } =>
      let wanted := resolved.getD written
      if (files.lookup wanted).isSome then return files
      else gather home path ((wanted, ← readFile wanted) :: files)
  | _ => return files

/-- The home directories, and the facts about the local machine. -/
def localFacts : IO (Homes × LocalFacts) := do
  let uid := (uidOfStatus? (← readText "/proc/self/status")).getD 0
  let accounts := Account.readAll (← readText "/etc/passwd")
  let home := Homes.ofAccounts accounts uid ((← IO.getEnv "HOME").map String.toList)
  let hostname ← readText "/proc/sys/kernel/hostname"
  return (home, {
    username := ((accounts.find? fun account => account.uid == uid).map Account.name).getD []
    uid
    homeDirectory := home.own.getD []
    hostname := Text.trim hostname })

/-- A machine on which nothing was read yet. -/
def bareMachine : IO Machine := do
  let (home, facts) ← localFacts
  let environment ← CommandLine.variableNames.mapM fun name =>
    return (name, (← IO.getEnv name).map String.toList)
  let outputIsTerminal ← (← IO.getStdout).isTty
  let errorsAreTerminal ← (← IO.getStderr).isTty
  return {
    disk := FilesRead.disk []
    create := fun _ => .ok (FilesRead.disk [], fun _ => false)
    home
    environment := fun name => (environment.lookup name).join
    facts
    isTerminal := fun
      | .output => outputIsTerminal
      | .errors => errorsAreTerminal }

/-- The place of a file that keeps what is written to it, if a path leads to one. -/
def placeOf (path : Path) : IO (Option String) := do
  try
    let place := toString (← IO.FS.realPath (String.ofList path))
    return if place == "/dev/null" then none else some place
  catch _ => return none

/-- The machine with everything on its disk that the command line asks for. -/
def prepare (machine : Machine) (given : CommandLine) : IO Machine := do
  let isFiltered := (CommandLine.readFilter machine given CommandLine.filterVariable).isOk
  let created ← match given.logFile with
    | none => pure (.ok ())
    | some path => if isFiltered then createFile path else pure (.ok ())
  let mut files : FilesRead := []
  for path in CommandLine.defaultFiles machine.home do
    files := (path, ← readFile path) :: files
  let disk := FilesRead.disk files
  if let some path := CommandLine.configFile? { machine with disk } given then
    files ← gather machine.home path files
  let place ← placeOf (given.logFile.getD [])
  let mut logPaths : List Path := []
  for (path, _) in files do
    if place.isSome && (← placeOf path) == place then logPaths := path :: logPaths
  let disk := FilesRead.disk files
  let isAt := logPaths.contains
  return { machine with disk, create := fun _ => created.map fun _ => (disk, isAt) }

/-- Runs the program on the machine that it finds itself on. -/
def runHere (arguments : List Text) : IO Report := do
  let machine ← bareMachine
  match CommandLine.read arguments with
  | .error refusal => return refusal.report
  | .ok given => return CommandLine.run (← prepare machine given) arguments

end SshConfig

def main (arguments : List String) : IO UInt32 := do
  let report ← SshConfig.runHere (arguments.map String.toList)
  IO.print (String.ofList report.output)
  IO.eprint (String.ofList report.errors)
  return UInt32.ofNat report.exitCode
