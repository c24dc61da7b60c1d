import SshConfig.Config
import SshConfig.Error

namespace SshConfig

/-! Directives: what lines with a known keyword mean. -/

/-- A directive that sets an option. -/
inductive Setting where
  | hostname (name : Text)
  | identityAgent (agent : IdentityAgent)
  | identityFile (path : Text)
  | port (number : UInt16)
  | user (name : Text)
deriving DecidableEq, Repr

namespace Setting

def keyword : Setting → Keyword
  | .hostname _ => .hostname
  | .identityAgent _ => .identityAgent
  | .identityFile _ => .identityFile
  | .port _ => .port
  | .user _ => .user

/-- Whether the setting has a meaning in blocks only. -/
def needsBlock : Setting → Bool
  | .hostname _ | .identityAgent _ => true
  | .identityFile _ | .port _ | .user _ => false

/-- The options after the setting.  An option that is already set stays as it is, and
identity files add up. -/
def apply (setting : Setting) (options : Options) : Options :=
  match setting with
  | .hostname name => { options with hostname := fillText options.hostname (some name) }
  | .identityAgent agent =>
      { options with identityAgent := options.identityAgent.or (some agent) }
  | .identityFile path => { options with identityFiles := options.identityFiles ++ [path] }
  | .port number => { options with port := options.port.or (some number) }
  | .user name => { options with user := fillText options.user (some name) }

end Setting

/-- What a line with a known keyword asks for. -/
inductive Directive where
  /-- Opens a block. -/
  | header (header : Header)
  /-- Sets an option of the open block, or of global scope before the first block. -/
  | setting (setting : Setting)
  /-- Reads files in the place of the line. -/
  | inclusion (arguments : List Text)
deriving DecidableEq, Repr

/-- Reads a port: a number from 1 to 65535. -/
def readPort? (text : Text) : Option UInt16 :=
  match Text.number? text with
  | none => none
  | some value => if value = 0 || 0xFFFF < value then none else some (UInt16.ofNat value)

namespace Directive

/-- The one argument of a keyword that takes exactly one. -/
def single (keyword : Keyword) : List Text → Except ConfigError Text
  | [argument] => .ok argument
  | _ => .error (.argumentCount keyword)

/-- What a keyword with arguments asks for. -/
def read (keyword : Keyword) (arguments : List Text) : Except ConfigError Directive :=
  match keyword with
  | .host => .ok (.header (.host (arguments.map HostPattern.ofText)))
  | .matching =>
      match Condition.readAll arguments with
      | .error fault => .error (.conditions fault)
      | .ok conditions => .ok (.header (.matching conditions))
  | .inclusion => .ok (.inclusion arguments)
  | .hostname => (single keyword arguments).map fun name => .setting (.hostname name)
  | .identityAgent =>
      (single keyword arguments).map fun argument =>
        .setting (.identityAgent (IdentityAgent.ofText argument))
  | .identityFile =>
      (single keyword arguments).map fun path => .setting (.identityFile path)
  | .port =>
      match single keyword arguments with
      | .error error => .error error
      | .ok argument =>
          match readPort? argument with
          | none => .error (.notANumber keyword)
          | some number => .ok (.setting (.port number))
  | .user => (single keyword arguments).map fun name => .setting (.user name)

end Directive

end SshConfig
