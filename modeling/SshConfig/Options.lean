import SshConfig.Text.Ascii

namespace SshConfig

/-! The options of a connection, and how options from several sources combine.

A single-valued option keeps the first value that it is given.  The texts among them
count as not given while they are empty.  Identity files add up.
-/

/-- Where the authentication agent is found. -/
inductive IdentityAgent where
  /-- No agent is used. -/
  | disabled
  /-- The environment variable that holds the path of the agent's socket. -/
  | environment (name : Text)
  /-- The path of the agent's socket, as written. -/
  | socket (path : Text)
deriving DecidableEq, Repr

namespace IdentityAgent

/-- The agent that the argument of an `IdentityAgent` line names. -/
def ofText (argument : Text) : IdentityAgent :=
  if Text.sameLetters argument "none".toList then .disabled
  else if argument = "SSH_AUTH_SOCK".toList then .environment argument
  else .socket argument

def text : IdentityAgent → Text
  | .disabled => "none".toList
  | .environment name => '$' :: name
  | .socket path => path

end IdentityAgent

/-- The options that global scope and every block can set. -/
structure Options where
  identityAgent : Option IdentityAgent := none
  identityFiles : List Text := []
  hostname : Option Text := none
  user : Option Text := none
  port : Option UInt16 := none
deriving DecidableEq, Repr, Inhabited

/-- A text option after a value was offered: it takes the value unless it holds a text
that is not empty. -/
def fillText (held offered : Option Text) : Option Text :=
  match held, offered with
  | some (_ :: _), _ => held
  | _, some value => some value
  | _, none => held

namespace Options

/-- The options completed by those of a later source. -/
def absorb (options later : Options) : Options where
  identityAgent := options.identityAgent.or later.identityAgent
  identityFiles := options.identityFiles ++ later.identityFiles
  hostname := fillText options.hostname later.hostname
  user := fillText options.user later.user
  port := options.port.or later.port

end Options

end SshConfig
