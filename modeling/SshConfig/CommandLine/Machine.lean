import SshConfig.FileSystem.Tree
import SshConfig.Homes
import SshConfig.Query
import SshConfig.Text.Printable

namespace SshConfig

/-! The machine that the program runs on, as far as the program looks at it. -/

/-- A stream that the program prints to. -/
inductive Stream where
  | output
  | errors
deriving DecidableEq, Repr

/-- What the program finds around it. -/
structure Machine where
  disk : Disk
  /-- Creates an empty file; gives the disk as it is then, and says which paths lead to
  the file. -/
  create : Path → Except SystemError (Disk × (Path → Bool))
  home : Homes
  /-- The variables of the environment. -/
  environment : String → Option Text
  facts : LocalFacts
  /-- Whether a stream leads to a terminal. -/
  isTerminal : Stream → Bool := fun _ => false

namespace CommandLine

/-- The variable that holds a filter for all logging. -/
def filterVariable : String := "RUST_LOG"

/-- The variable that holds a filter for the log file. -/
def fileFilterVariable : String := "RUST_LOG_FILE_DETAIL"

/-- The variable that asks for colours in any output. -/
def colourVariable : String := "CLICOLOR_FORCE"

/-- The variable that forbids colours. -/
def plainVariable : String := "NO_COLOR"

/-- The variable that says whether a terminal shows colours. -/
def terminalColourVariable : String := "CLICOLOR"

/-- The variable that holds the kind of the terminal. -/
def terminalVariable : String := "TERM"

/-- The variable that is set where software is built and tested by itself. -/
def buildVariable : String := "CI"

/-- All variables of the environment that the program looks at. -/
def variableNames : List String :=
  [filterVariable, fileFilterVariable, colourVariable, plainVariable,
    terminalColourVariable, terminalVariable, buildVariable]

/-- Whether a variable of the environment is set to a text that is not empty. -/
def isFilled (machine : Machine) (name : String) : Bool :=
  (machine.environment name).any fun value => !value.isEmpty

/-- Whether a terminal would show colours, as far as the environment tells. -/
def isColourTerminal (machine : Machine) : Bool :=
  match machine.environment terminalColourVariable with
  | some value => value != ['0']
  | none =>
      (machine.environment terminalVariable).any (· != "dumb".toList) ||
        (machine.environment buildVariable).isSome

/-- Whether what is printed to a stream has colours: where they are asked for, and on a
terminal that shows them, unless they are forbidden. -/
def isColoured (machine : Machine) (stream : Stream) : Bool :=
  !isFilled machine plainVariable &&
    (isFilled machine colourVariable || machine.isTerminal stream && isColourTerminal machine)

/-- What is printed to a stream of a text that is written in the given pieces. -/
def emit (machine : Machine) (stream : Stream) (pieces : List Text) : Text :=
  if isColoured machine stream then pieces.flatten else Text.printable pieces

end CommandLine

end SshConfig
