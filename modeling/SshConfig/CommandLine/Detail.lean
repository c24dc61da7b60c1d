import SshConfig.Text.Ascii

namespace SshConfig.CommandLine

/-! How detailed logging is. -/

/-- The events that are logged: those of this kind and of the kinds before it. -/
inductive Detail where
  | off
  | error
  | warn
  | info
  | debug
  | trace
deriving DecidableEq, Repr

namespace Detail

/-- All of them, from nothing to everything. -/
def all : List Detail :=
  [.off, .error, .warn, .info, .debug, .trace]

def name : Detail → String
  | .off => "off"
  | .error => "error"
  | .warn => "warn"
  | .info => "info"
  | .debug => "debug"
  | .trace => "trace"

/-- The number that stands for the detail. -/
def rank : Detail → Nat
  | .off => 0
  | .error => 1
  | .warn => 2
  | .info => 3
  | .debug => 4
  | .trace => 5

/-- Reads a detail, given by its number or by its name in any case of the letters. -/
def ofText? (text : Text) : Option Detail :=
  all.find? fun detail =>
    Text.number? text == some detail.rank || Text.sameLetters detail.name.toList text

theorem mem_all (detail : Detail) : detail ∈ all := by
  cases detail <;> decide

end Detail

end SshConfig.CommandLine
