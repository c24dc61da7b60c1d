import SshConfig.Resolution
import SshConfig.Table

namespace SshConfig

/-! Options as data, to be merged with other settings, and as tables, to be read. -/

/-- The value of an option as data. -/
inductive Datum where
  | text (value : Text)
  | number (value : Nat)
  | list (values : List Text)
deriving DecidableEq, Repr

/-- The value on one line. -/
def Datum.line : Datum → Text
  | .text value => value
  | .number value => (toString value).toList
  | .list values => Text.join ", ".toList values

/-- Entries with a key each. -/
abbrev Record (α : Type) := List (Text × α)

namespace Record

/-- Enters a value under a key, in place of the one that is there. -/
def insert {α : Type} (key : Text) (value : α) : Record α → Record α
  | [] => [(key, value)]
  | entry :: rest =>
      if entry.1 = key then (key, value) :: rest
      else entry :: insert key value rest

/-- The entries of a record with those of a later one entered over them. -/
def merge {α : Type} (record later : Record α) : Record α :=
  later.foldl (fun merged entry => merged.insert entry.1 entry.2) record

end Record

namespace Options

/-- The options as data.  What is not set has no entry; identity files always have
one. -/
def data (options : Options) : Record Datum :=
  (options.hostname.toList.map fun name => ("hostname".toList, .text name)) ++
  (options.identityAgent.toList.map fun agent =>
    ("identity_agent".toList, .text agent.text)) ++
  [("identity_files".toList, .list options.identityFiles)] ++
  (options.port.toList.map fun number => ("port".toList, .number number.toNat)) ++
  (options.user.toList.map fun name => ("user".toList, .text name))

/-- The options that are set, each with its value on one line. -/
def rows (options : Options) : List (Text × Text) :=
  (options.data.filter fun entry => entry.2 != .list []).map fun entry =>
    (entry.1, entry.2.line)

/-- The table of the options that are set. -/
def table (options : Options) : Table where
  titles := ["option".toList, "value".toList]
  rows := options.rows.map fun row => [row.1, row.2]

end Options

namespace Block

/-- The options of the block, one to a line. -/
def optionLines (block : Block) : Text :=
  Text.join ['\n'] (block.options.rows.map fun row => row.1 ++ '=' :: row.2)

/-- The table of blocks. -/
def table (blocks : List Block) : Table where
  titles := ["block".toList, "origin".toList, "options".toList]
  rows := blocks.map fun block => [block.header.text, block.origin.text, block.optionLines]

end Block

namespace Config

/-- The configuration in the pieces in which it is written: the options of global scope,
if any are set, and the blocks. -/
def pieces (config : Config) : List Text :=
  (if config.options.rows.isEmpty then [] else config.options.table.pieces ++ [['\n']]) ++
    (Block.table config.blocks).pieces

/-- The configuration as text. -/
def text (config : Config) : Text :=
  config.pieces.flatten

end Config

namespace Resolution

/-- The table of the resolved options. -/
def table (resolution : Resolution) : Table :=
  resolution.options.table

/-- The table of the blocks that apply. -/
def matchedTable (resolution : Resolution) : Table :=
  Block.table resolution.matched

/-- The resolved options as text. -/
def text (resolution : Resolution) : Text :=
  resolution.table.text

/-- The blocks that apply, as text. -/
def matchedText (resolution : Resolution) : Text :=
  resolution.matchedTable.text

/-- A name for resolved options among the sources of settings. -/
def providerName : String := "ssh configuration"

/-- The defaults with the resolved options entered over them, where `embed` makes an
option's value one of the defaults' kind. -/
def mergeOver {α : Type} (resolution : Resolution) (embed : Datum → α)
    (defaults : Record α) : Record α :=
  defaults.merge (resolution.options.data.map fun entry => (entry.1, embed entry.2))

end Resolution

end SshConfig
