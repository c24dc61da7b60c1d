import SshConfig.Path
import SshConfig.Text.Utf8

namespace SshConfig

/-! The files that a configuration is read from. -/

/-- Why a file cannot be read. -/
inductive ReadFailure where
  | notFound
  | permissionDenied
  | isADirectory
  | notADirectory
  | invalidFilename
  | invalidInput
  | invalidData
  | interrupted
  | timedOut
  | unexpectedEof
  | other
  /-- Any other kind of failure, in words. -/
  | named (description : String)
deriving DecidableEq, Repr

/-- The failure in words. -/
def ReadFailure.message : ReadFailure → String
  | .notFound => "entity not found"
  | .permissionDenied => "permission denied"
  | .isADirectory => "is a directory"
  | .notADirectory => "not a directory"
  | .invalidFilename => "invalid filename"
  | .invalidInput => "invalid input parameter"
  | .invalidData => "invalid data"
  | .interrupted => "operation interrupted"
  | .timedOut => "timed out"
  | .unexpectedEof => "unexpected end of file"
  | .other => "other error"
  | .named description => description

/-- What reading the file at each path gives. -/
abbrev FileSystem := Path → Except ReadFailure Bytes

/-- The text of the file at a path. -/
def FileSystem.text (files : FileSystem) (path : Path) : Except ReadFailure Text :=
  (files path).map Text.decode

/-- The files and directories that can be found by their paths. -/
structure Disk where
  files : FileSystem
  /-- Whether a path leads to a file or a directory. -/
  isPresent : Path → Bool

end SshConfig
