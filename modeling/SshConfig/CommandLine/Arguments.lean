import SshConfig.CommandLine.Detail
import SshConfig.CommandLine.Name

namespace SshConfig

/-! Reading of the arguments of the command line.

Options and the destination may stand in any order.  A value follows its option, or is
attached to it; single letters may share one hyphen.  After two hyphens alone every
argument is a destination.
-/

/-- What the command line asks for. -/
structure CommandLine where
  config : Option Text := none
  login : Option Text := none
  logFile : Option Text := none
  destination : Option Text := none
  matched : Bool := false
  dump : Bool := false
  debug : Bool := false
  quiet : Bool := false
deriving DecidableEq, Repr

namespace CommandLine

/-- Why arguments are not carried out. -/
inductive Refusal where
  /-- An option that does not exist, or a second destination. -/
  | unknownArgument
  | missingDestination
  /-- Options that exclude one another, or an option that is given twice. -/
  | conflict
  /-- A value that is missing, or a path that is empty. -/
  | invalidValue
  /-- A value that is attached to an option without one. -/
  | needlessValue
  /-- The arguments ask for help instead. -/
  | help
  /-- The arguments ask for the version instead. -/
  | version
deriving DecidableEq, Repr

/-- Whether a switch was given. -/
def has (given : CommandLine) : Switch → Bool
  | .matched => given.matched
  | .dump => given.dump
  | .debug => given.debug
  | .quiet => given.quiet

/-- The command line with a switch given, which may be done once. -/
def addSwitch (given : CommandLine) (switch : Switch) : Except Refusal CommandLine :=
  if given.has switch then .error .conflict
  else
    match switch with
    | .matched => .ok { given with matched := true }
    | .dump => .ok { given with dump := true }
    | .debug => .ok { given with debug := true }
    | .quiet => .ok { given with quiet := true }

/-- The value that was given for an option. -/
def value? (given : CommandLine) : Parameter → Option Text
  | .config => given.config
  | .login => given.login
  | .logFile => given.logFile

/-- The command line with a value given for an option, which may be done once. -/
def addValue (given : CommandLine) (parameter : Parameter) (value : Text) :
    Except Refusal CommandLine :=
  if (given.value? parameter).isSome then .error .conflict
  else if parameter.isPath && value.isEmpty then .error .invalidValue
  else
    match parameter with
    | .config => .ok { given with config := some value }
    | .login => .ok { given with login := some value }
    | .logFile => .ok { given with logFile := some value }

/-- An option whose value is a separate argument is entered only once the next option or
destination is reached.  Until then it is open, first without its value and then
with it. -/
inductive OpenParameter where
  | none
  | awaiting (parameter : Parameter)
  | filled (parameter : Parameter) (value : Text)
deriving DecidableEq, Repr

/-- What was read of the arguments. -/
structure Progress where
  given : CommandLine := {}
  opened : OpenParameter := .none
deriving DecidableEq, Repr

namespace Progress

/-- Enters the open option, if there is one. -/
def settle (progress : Progress) : Except Refusal CommandLine :=
  match progress.opened with
  | .none => .ok progress.given
  | .awaiting _ => .error .invalidValue
  | .filled parameter value => progress.given.addValue parameter value

/-- Carries out an option for which no value stands in the same argument. -/
def addName (progress : Progress) (name : Name) : Except Refusal Progress := do
  let given ← progress.settle
  match name with
  | .switch switch => return { given := ← given.addSwitch switch }
  | .parameter parameter => return { given, opened := .awaiting parameter }
  | .help => throw .help
  | .version => throw .version

/-- Carries out an option with a value in the same argument. -/
def addAttached (progress : Progress) (parameter : Parameter) (value : Text) :
    Except Refusal Progress := do
  let given ← progress.settle
  return { given := ← given.addValue parameter value }

/-- Carries out what follows two hyphens: a name, or a name, an equals sign and a
value. -/
def addLong (progress : Progress) (text : Text) : Except Refusal Progress :=
  match Text.splitFirst '=' text with
  | none =>
      match Name.ofLong? text with
      | none => .error .unknownArgument
      | some name => progress.addName name
  | some (nameText, value) =>
      match Name.ofLong? nameText with
      | none => .error .unknownArgument
      | some (.parameter parameter) => progress.addAttached parameter value
      | some _ => .error .needlessValue

/-- Carries out what follows one hyphen: letters, of which the first that takes a value
has the rest for its value, an equals sign between them left out. -/
def addShort (progress : Progress) : Text → Except Refusal Progress
  | [] => .ok progress
  | letter :: rest =>
      match Name.ofShort? letter with
      | none => .error .unknownArgument
      | some (.parameter parameter) =>
          match rest with
          | [] => progress.addName (.parameter parameter)
          | '=' :: value => progress.addAttached parameter value
          | value => progress.addAttached parameter value
      | some name =>
          match progress.addName name with
          | .error refusal => .error refusal
          | .ok next => addShort next rest

/-- Takes an argument as the destination, of which there is one at most. -/
def addDestination (progress : Progress) (argument : Text) : Except Refusal Progress :=
  if progress.given.destination.isSome then .error .unknownArgument
  else do
    let given ← progress.settle
    return { given := { given with destination := some argument } }

/-- Takes an argument that does not begin like an option: as the value of the option
that waits for one, or as the destination. -/
def addPlain (progress : Progress) (argument : Text) : Except Refusal Progress :=
  match progress.opened with
  | .awaiting parameter => .ok { progress with opened := .filled parameter argument }
  | _ => progress.addDestination argument

/-- Reads arguments all of which are destinations. -/
def addDestinations (progress : Progress) : List Text → Except Refusal Progress
  | [] => .ok progress
  | argument :: rest =>
      match progress.addDestination argument with
      | .error refusal => .error refusal
      | .ok next => addDestinations next rest

/-- Reads one argument before two hyphens alone. -/
def addArgument (progress : Progress) (argument : Text) : Except Refusal Progress :=
  match argument with
  | '-' :: '-' :: text => progress.addLong text
  | '-' :: letter :: letters => progress.addShort (letter :: letters)
  | _ => progress.addPlain argument

/-- Reads arguments. -/
def addArguments (progress : Progress) : List Text → Except Refusal Progress
  | [] => .ok progress
  | ['-', '-'] :: rest => progress.addDestinations rest
  | argument :: rest =>
      match progress.addArgument argument with
      | .error refusal => .error refusal
      | .ok next => addArguments next rest

end Progress

/-- Whether options are given that exclude one another: a dump is not for one
destination, and output is not both detailed and quiet. -/
def hasConflict (given : CommandLine) : Bool :=
  given.dump && (given.matched || given.login.isSome) || given.debug && given.quiet

/-- Accepts a command line whose options go together and that has a destination where
one is needed. -/
def check (given : CommandLine) : Except Refusal CommandLine :=
  if given.hasConflict then .error .conflict
  else if given.destination.isNone && !given.dump then .error .missingDestination
  else .ok given

/-- Reads the arguments of the command line. -/
def read (arguments : List Text) : Except Refusal CommandLine := do
  let progress ← Progress.addArguments {} arguments
  (← progress.settle).check

/-- Why a command line with a dump, or with an odd destination, names no host. -/
inductive DestinationFault where
  | missing
  | noHost
deriving DecidableEq, Repr

def DestinationFault.message : DestinationFault → String
  | .missing => "no destination specified"
  | .noHost => "destination has no hostname"

/-- The connection that the command line is about.  A user can be written before the
host, with an at sign between; the login option takes precedence over it. -/
def userHost (given : CommandLine) : Except DestinationFault (Option Text × Text) :=
  match given.destination with
  | none => .error .missing
  | some destination =>
      let (user, host) := match Text.splitFirst '@' destination with
        | none => (none, destination)
        | some (user, host) => (some user, host)
      if host.isEmpty then .error .noHost
      else .ok (given.login.or user, host)

/-- How much is logged. -/
def detail (given : CommandLine) : Detail :=
  if given.debug then .trace else if given.quiet then .error else .warn

end CommandLine

end SshConfig
