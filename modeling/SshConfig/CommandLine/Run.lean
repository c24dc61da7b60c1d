import SshConfig.CommandLine.Start
import SshConfig.Presentation

namespace SshConfig

/-! The whole program: from the arguments of the command line to what is printed. -/

/-- What the program does: its exit code and what it prints. -/
structure Report where
  exitCode : Nat
  output : Text
  errors : Text
deriving DecidableEq, Repr

namespace CommandLine

/-- The name and version of the program. -/
def versionText : String := "sshcfg 0.1.0\n"

/-- What the program does with arguments that it does not carry out.  The help, and why
arguments are refused, are told in words of the reader of arguments, which are left out
here. -/
def Refusal.report : Refusal → Report
  | .version => { exitCode := 0, output := versionText.toList, errors := [] }
  | .help => { exitCode := 0, output := [], errors := [] }
  | _ => { exitCode := 2, output := [], errors := [] }

/-- A word in bold letters of a colour, given by its number. -/
def bold (colour : Nat) (word : String) : List Text :=
  [("\x1b[" ++ toString colour ++ ";1m").toList, word.toList, "\x1b[0m".toList]

/-- The configuration file of the account at work, if its home directory is known. -/
def userFile? (home : Homes) : Option Path :=
  home.own.map fun own => Path.join (Path.join own ".ssh".toList) "config".toList

/-- The configuration file of the system. -/
def systemFile : Path :=
  "/etc/ssh/ssh_config".toList

/-- The configuration files that are tried when none is named, in order. -/
def defaultFiles (home : Homes) : List Path :=
  (userFile? home).toList ++ [systemFile]

/-- The file to read: the one that is named, or else the first default file that is
present. -/
def configFile? (machine : Machine) (given : CommandLine) : Option Path :=
  given.config.or ((defaultFiles machine.home).find? machine.disk.isPresent)

/-- Whether something is logged before the file to read is opened: that the home
directory is not known, or that a default file was looked for in vain. -/
def isLogBegun (machine : Machine) (given : CommandLine) (log : LogFile) : Bool :=
  given.config.isNone &&
    match userFile? machine.home with
    | none => log.recordsUnknownHome
    | some path => !machine.disk.isPresent path && log.recordsAbsence

/-- The configuration to work with.  Without a file it is empty. -/
def load (machine : Machine) (given : CommandLine) (log : Option LogFile) :
    Except Failure Config :=
  let surroundings := { files := machine.disk.files, home := machine.home }
  match configFile? machine given, log with
  | none, _ => .ok {}
  | some path, none => parseFile surroundings path
  | some path, some log =>
      parseLogged log (isLogBegun machine given log) surroundings path

/-- What is told beside the output when there is no file to read. -/
def warning (machine : Machine) (given : CommandLine) : List Text :=
  if (configFile? machine given).isNone && !given.quiet then
    bold 33 "WARNING" ++ [": no configuration file found; nothing is configured\n".toList]
  else []

/-- The output for a configuration, part by part, or why there is none. -/
def show? (machine : Machine) (given : CommandLine) (config : Config) :
    Except DestinationFault (List (List Text)) :=
  if given.dump then .ok [config.pieces]
  else
    match given.userHost with
    | .error fault => .error fault
    | .ok (user, host) =>
        let resolution := config.resolve { host, user } machine.facts
        .ok (resolution.table.pieces ::
          if given.matched then [resolution.matchedTable.pieces] else [])

/-- What the program does when logging is prepared. -/
def answer (machine : Machine) (given : CommandLine) (log : Option LogFile) : Report :=
  let warned := emit machine .errors (warning machine given)
  let failed := fun (message : List Text) =>
    ({ exitCode := 1, output := []
       errors := warned ++
        emit machine .errors (bold 31 "ERROR" ++ [[' ']] ++ message ++ [['\n']]) } : Report)
  match load machine given log with
  | .error failure => failed (failure.pieces.map String.toList)
  | .ok config =>
      match show? machine given config with
      | .error fault => failed [fault.message.toList]
      | .ok parts =>
          { exitCode := 0
            output := parts.flatMap fun pieces => emit machine .output (pieces ++ [['\n']])
            errors := warned }

/-- What the program does when logging cannot be prepared. -/
def StartFault.report (machine : Machine) (fault : StartFault) : Report where
  exitCode := if fault.isFatal then 101 else 1
  output := []
  errors := emit machine .errors (fault.pieces ++ [['\n']]) ++ "Error: ".toList ++
    fault.pieces.flatten ++ ['\n']

/-- The whole program. -/
def run (machine : Machine) (arguments : List Text) : Report :=
  match CommandLine.read arguments with
  | .error refusal => refusal.report
  | .ok given =>
      match startLogging machine given with
      | .error fault => fault.report machine
      | .ok (disk, log) => answer { machine with disk } given log

end CommandLine

end SshConfig
