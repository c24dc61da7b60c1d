import SshConfig.Homes
import SshConfig.Query
import SshConfig.Text.Ascii
import SshConfig.Text.Blank

namespace SshConfig

/-! Facts about the account at work, as the system writes them. -/

/-- The user id of a process, from the description of its status: the first number after
the label `Uid:`. -/
def uidOfStatus? (status : Text) : Option Nat :=
  (Text.lines status).findSome? fun line =>
    match Text.splitFirst ':' line with
    | some (['U', 'i', 'd'], numbers) =>
        Text.number? ((Text.trimStart numbers).takeWhile fun c => !Text.isBlank c)
    | _ => none

/-- An account of the system. -/
structure Account where
  name : Text
  uid : Nat
  homeDirectory : Path
deriving DecidableEq, Repr

/-- Reads an account from a line of fields with colons between them, of which the first
is the name, the third the user id and the sixth the home directory. -/
def Account.ofLine? (line : Text) : Option Account :=
  match Text.splitAll ':' line with
  | name :: _ :: number :: _ :: _ :: homeDirectory :: _ =>
      (Text.number? number).map fun uid => { name, uid, homeDirectory }
  | _ => none

/-- Reads the list of all accounts. -/
def Account.readAll (accounts : Text) : List Account :=
  (Text.lines accounts).filterMap Account.ofLine?

/-- The home directories of accounts.  For the account at work it is the one that the
environment names, or else that of the account with the user id. -/
def Homes.ofAccounts (accounts : List Account) (uid : Nat) (named : Option Path) :
    Homes where
  own :=
    let listed := (accounts.find? fun account => account.uid == uid).map Account.homeDirectory
    [named, listed].findSome? fun home => home.filter fun path => !path.isEmpty
  ofAccount := fun name =>
    (accounts.find? fun account => account.name == name).map Account.homeDirectory

end SshConfig
