import SshConfig.Condition
import SshConfig.FileSystem
import SshConfig.Keyword

namespace SshConfig

/-! What can be wrong with a configuration, and where. -/

/-- Why a line is not written as it should be. -/
inductive LineFault where
  /-- The line does not begin with a keyword that is set off from what follows. -/
  | noKeyword
  /-- A quotation mark stands inside an argument without quotes. -/
  | quoteWithinArgument
  /-- A quoted argument is followed by something other than white space. -/
  | textAfterQuote
  /-- A quoted argument does not end. -/
  | unfinishedQuote
deriving DecidableEq, Repr

def LineFault.message : LineFault → String
  | .noKeyword => "Invalid syntax"
  | .quoteWithinArgument => "Begin quote should be after whitespace/nothing"
  | .textAfterQuote => "End quote should be followed by whitespace/nothing"
  | .unfinishedQuote => "Unfinished quote"

def Condition.Fault.message : Condition.Fault → String
  | .unknownKind name => "Unknown keyword \"" ++ String.ofList name ++ "\" in Match statement"
  | .missingValue kind =>
      "Keyword \"" ++ kind.name ++ "\" in Match statement requires an argument"

/-- What a file was to be read for. -/
inductive FileRole where
  /-- The configuration itself. -/
  | configuration
  /-- A part that an `Include` line names. -/
  | included
deriving DecidableEq, Repr

def FileRole.name : FileRole → String
  | .configuration => "file"
  | .included => "Include file"

/-- How many files may enclose a text, by way of `Include` lines. -/
def includeLimit : Nat := 16

/-- The cause of a failure. -/
inductive ConfigError where
  /-- A line is not written as it should be. -/
  | line (fault : LineFault)
  /-- The arguments of a `Match` line are no conditions. -/
  | conditions (fault : Condition.Fault)
  /-- A keyword that takes one argument has none or several. -/
  | argumentCount (keyword : Keyword)
  /-- The argument of a keyword that takes a number is none that it can use. -/
  | notANumber (keyword : Keyword)
  /-- A keyword that has a meaning in blocks only stands before the first block. -/
  | outsideBlock (keyword : Keyword)
  /-- A file cannot be read.  The path is given as written and, for an included file,
  as it was understood. -/
  | unreadable (role : FileRole) (path : Text) (resolved : Option Path)
      (failure : ReadFailure)
  /-- Files include one another more deeply than the limit allows. -/
  | includeDepth
deriving DecidableEq, Repr

namespace ConfigError

/-- The cause in words, in the pieces in which it is written: what is taken over from a
configuration stands apart from the words around it. -/
def pieces : ConfigError → List String
  | .line fault => [fault.message]
  | .conditions fault => [fault.message]
  | .argumentCount keyword => ["Keyword " ++ keyword.name ++ " requires exactly 1 argument"]
  | .notANumber keyword => ["Keyword " ++ keyword.name ++ " expects a number as argument"]
  | .outsideBlock keyword => ["Keyword " ++ keyword.name ++ " used outside a config"]
  | .unreadable role path resolved failure =>
      let understood := match resolved with
        | none => ""
        | some path => " (resolved to " ++ String.ofList path ++ ")"
      ["Couldn't read ", role.name, ": ", String.ofList path, understood, " (",
        failure.message, ")"]
  | .includeDepth => ["too many nested includes (limit " ++ toString includeLimit ++ ")"]

/-- The cause in words. -/
def message (error : ConfigError) : String :=
  String.join error.pieces

end ConfigError

/-- One step of the way to the place of an error. -/
inductive Layer where
  /-- The line of a text, counted from one. -/
  | line (number : Nat)
  /-- The file that the line includes. -/
  | file (path : Path)
deriving DecidableEq, Repr

def Layer.message : Layer → String
  | .line number => "Error on line " ++ toString number
  | .file path => "Error in " ++ String.ofList path

/-- A cause together with the way to it, from the outermost text inwards. -/
structure Failure where
  layers : List Layer
  cause : ConfigError
deriving DecidableEq, Repr

namespace Failure

/-- A failure whose place needs no telling. -/
def ofCause (cause : ConfigError) : Failure :=
  { layers := [], cause }

/-- The failure as it is seen from one step further out. -/
def within (layer : Layer) (failure : Failure) : Failure :=
  { failure with layers := layer :: failure.layers }

/-- The way and the cause in words, in the pieces in which they are written. -/
def pieces (failure : Failure) : List String :=
  failure.layers.flatMap (fun layer => [layer.message, ": "]) ++ failure.cause.pieces

/-- The way and the cause in words. -/
def message (failure : Failure) : String :=
  String.join failure.pieces

theorem message_within (layer : Layer) (failure : Failure) :
    (failure.within layer).message = layer.message ++ ": " ++ failure.message := by
  simp [message, pieces, within, String.append_assoc]

end Failure

end SshConfig
