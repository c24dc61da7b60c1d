import SshConfig.CommandLine.Arguments
import SshConfig.CommandLine.Logging
import SshConfig.CommandLine.Machine

namespace SshConfig.CommandLine

/-! The start of the program: logging is prepared, or what keeps it from that is
explained. -/

/-- What keeps logging from being prepared. -/
inductive StartFault where
  /-- The filter for all logging is not well formed. -/
  | filter (fault : LogFilter.Fault)
  /-- The log file cannot be created. -/
  | logFile (path : Path) (error : SystemError)
  /-- The filter for the log file is not well formed. -/
  | fileFilter (fault : LogFilter.Fault)
deriving DecidableEq, Repr

namespace StartFault

def message : StartFault → Text
  | .filter fault => filterVariable.toList ++ " (set in environment) was invalid: ".toList ++
      fault.message
  | .logFile path _ => "Failed to open log file ".toList ++ path
  | .fileFilter fault => fault.message

/-- What lies behind the fault, from the outside inwards. -/
def sources : StartFault → List (List Text)
  | .filter _ => []
  | .logFile _ error => [[error.message.toList]]
  | .fileFilter fault => [fault.message] :: fault.sources

/-- Whether the program breaks off instead of reporting the fault. -/
def isFatal : StartFault → Bool
  | .filter fault | .fileFilter fault => fault == .splitCharacter
  | .logFile .. => false

/-- A source with a label before its first line, and spaces before the others. -/
def labelled (label : Text) (source : List Text) : List Text :=
  ['\n'] :: label ::
    [['\n'], List.replicate label.length ' '].intercalate (source.map fun line => [line])

/-- Sources, with their numbers from the given one on. -/
def numbered (number : Nat) : List (List Text) → List Text
  | [] => []
  | source :: rest =>
      labelled (FieldPattern.alignedNumber 5 number ++ ": ".toList) source ++
        numbered (number + 1) rest

/-- The fault and what lies behind it, in the pieces in which they are written.  A single
source has no number. -/
def pieces (fault : StartFault) : List Text :=
  let below := match fault.sources with
    | [] => []
    | [source] => "\n\nCaused by:".toList :: labelled "    ".toList source
    | sources => "\n\nCaused by:".toList :: numbered 0 sources
  fault.message :: below

end StartFault

/-- The filter that a variable holds.  If it is not set, events of the program itself are
logged up to the detail that the command line asks for. -/
def readFilter (machine : Machine) (given : CommandLine) (name : String) :
    Except LogFilter.Fault LogFilter :=
  match machine.environment name with
  | some text => LogFilter.read text
  | none => .ok [{ target := some "sshcfg".toList, detail := given.detail }]

/-- Prepares logging.  Gives the disk as it is with an empty log file on it, and the log
file, if one is wanted. -/
def startLogging (machine : Machine) (given : CommandLine) :
    Except StartFault (Disk × Option LogFile) :=
  match readFilter machine given filterVariable with
  | .error fault => .error (.filter fault)
  | .ok filter =>
      match given.logFile with
      | none => .ok (machine.disk, none)
      | some path =>
          match machine.create path with
          | .error error => .error (.logFile path error)
          | .ok (disk, isAt) =>
              if (machine.environment fileFilterVariable).isNone then
                .ok (disk, some { filter, isAt })
              else
                match readFilter machine given fileFilterVariable with
                | .error fault => .error (.fileFilter fault)
                | .ok filter => .ok (disk, some { filter, isAt })

end SshConfig.CommandLine
