import SshConfig.Path

namespace SshConfig

/-! Home directories, and the tilde that stands for one at the beginning of a path. -/

/-- The home directories that are known. -/
structure Homes where
  /-- That of the account at work. -/
  own : Option Path := none
  /-- That of the account with a name. -/
  ofAccount : Text → Option Path := fun _ => none

namespace Homes

/-- A path alone is the home directory of the account at work, and no other is known. -/
instance : Coe Path Homes := ⟨fun path => { own := some path }⟩

/-- The home directory that a name behind a tilde means.  No name means the account at
work. -/
def named (homes : Homes) (name : Text) : Option Path :=
  if name = [] then homes.own else homes.ofAccount name

/-- The path that is meant by one that may begin with a tilde.  The tilde and the name
behind it, up to the first slash, stand for a home directory, and what follows that slash
is looked for there.  Nothing is meant if the home directory is not known. -/
def expand (homes : Homes) (path : Path) : Option Path :=
  match path with
  | '~' :: rest =>
      match Text.splitFirst '/' rest with
      | none => homes.named rest
      | some (name, inside) => (homes.named name).map fun home => Path.join home inside
  | _ => some path

end Homes

end SshConfig
