import SshConfig.Condition
import SshConfig.HostPattern
import SshConfig.Options

namespace SshConfig

/-! A configuration: options of global scope and blocks with options of their own. -/

/-- Where a block was opened. -/
structure Origin where
  /-- The path of the file, or a name for text that came from no file. -/
  source : Text
  /-- The number of the line, counted from one. -/
  line : Nat
deriving DecidableEq, Repr

def Origin.text (origin : Origin) : Text :=
  origin.source ++ " (line ".toList ++ (toString origin.line).toList ++ ")".toList

/-- What a block applies to. -/
inductive Header where
  | host (patterns : List HostPattern)
  | matching (conditions : List Condition)
deriving DecidableEq, Repr

/-- The header as it is written on a line. -/
def Header.text : Header → Text
  | .host patterns => "Host ".toList ++ Text.join [' '] (patterns.map HostPattern.text)
  | .matching conditions =>
      "Match ".toList ++ Text.join [' '] (conditions.map Condition.text)

/-- A header together with the options that stand below it. -/
structure Block where
  header : Header
  origin : Origin
  options : Options
deriving DecidableEq, Repr

/-- A configuration.  Blocks stand in the order in which they were opened, those of an
included file in the place of the line that includes it. -/
structure Config where
  options : Options := {}
  blocks : List Block := []
  source : Text := []
deriving DecidableEq, Repr, Inhabited

end SshConfig
