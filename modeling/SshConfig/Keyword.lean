import SshConfig.Text.Ascii

namespace SshConfig

/-! The keywords that a line can begin with. -/

/-- The keywords that have an effect; a line with any other keyword is passed over. -/
inductive Keyword where
  | host
  | matching
  | hostname
  | identityAgent
  | identityFile
  | inclusion
  | port
  | user
deriving DecidableEq, Repr

namespace Keyword

def all : List Keyword :=
  [.host, .matching, .hostname, .identityAgent, .identityFile, .inclusion, .port, .user]

/-- The usual spelling. -/
def name : Keyword → String
  | .host => "Host"
  | .matching => "Match"
  | .hostname => "Hostname"
  | .identityAgent => "IdentityAgent"
  | .identityFile => "IdentityFile"
  | .inclusion => "Include"
  | .port => "Port"
  | .user => "User"

/-- The keyword that a word spells, in any case of its letters. -/
def ofWord? (word : Text) : Option Keyword :=
  all.find? fun keyword => Text.sameLetters keyword.name.toList word

theorem mem_all (keyword : Keyword) : keyword ∈ all := by
  cases keyword <;> decide

end Keyword

end SshConfig
