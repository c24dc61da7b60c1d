import SshConfig.Text.Basic

namespace SshConfig.CommandLine

/-! The options that the command line knows, and their names. -/

/-- Options without a value. -/
inductive Switch where
  | matched
  | dump
  | debug
  | quiet
deriving DecidableEq, Repr

/-- Options with a value. -/
inductive Parameter where
  | config
  | login
  | logFile
deriving DecidableEq, Repr

/-- Whether the value of an option is a path, which cannot be empty. -/
def Parameter.isPath : Parameter → Bool
  | .config | .logFile => true
  | .login => false

/-- What an argument that begins with a hyphen can name. -/
inductive Name where
  | switch (switch : Switch)
  | parameter (parameter : Parameter)
  | help
  | version
deriving DecidableEq, Repr

namespace Name

def all : List Name :=
  [.parameter .config, .parameter .login, .switch .matched, .switch .dump, .switch .debug,
    .switch .quiet, .parameter .logFile, .help, .version]

/-- The name that is written after two hyphens. -/
def long : Name → String
  | .parameter .config => "config"
  | .parameter .login => "login"
  | .switch .matched => "matched"
  | .switch .dump => "dump"
  | .switch .debug => "debug"
  | .switch .quiet => "quiet"
  | .parameter .logFile => "log-file"
  | .help => "help"
  | .version => "version"

/-- The letter that is written after one hyphen. -/
def short? : Name → Option Char
  | .parameter .config => some 'F'
  | .parameter .login => some 'l'
  | .switch .matched => some 'm'
  | .switch .dump => none
  | .switch .debug => some 'd'
  | .switch .quiet => some 'q'
  | .parameter .logFile => none
  | .help => some 'h'
  | .version => some 'V'

/-- The option that a letter stands for. -/
def ofShort? (letter : Char) : Option Name :=
  all.find? fun name => name.short? == some letter

/-- The option that a long name means: the one of that name, or else the only one whose
name begins that way. -/
def ofLong? (text : Text) : Option Name :=
  match all.find? fun name => name.long.toList == text with
  | some name => some name
  | none =>
      match all.filter fun name => text.isPrefixOf name.long.toList with
      | [name] => some name
      | _ => none

end Name

end SshConfig.CommandLine
