import SshConfig.Text.Basic

namespace SshConfig

/-! Paths of files, as texts in which slashes separate the components. -/

/-- A path, as it is written. -/
abbrev Path := Text

namespace Path

/-- Whether a path begins at the root. -/
def isAbsolute (path : Path) : Bool :=
  path.head? == some '/'

/-- The path that `path` means below `base`.  An absolute path does not depend on the
base.  A slash is added only where the base does not end in one and is not empty; an
empty path below a base is the base with a slash at its end. -/
def join (base path : Path) : Path :=
  if isAbsolute path then path
  else
    match base.getLast? with
    | none => path
    | some '/' => base ++ path
    | some _ => base ++ '/' :: path

/-- Whether a component names no place of its own: it is empty, between two slashes or
at an end, or a single dot. -/
def isIdle (component : Text) : Bool :=
  component == [] || component == ['.']

/-- The components without idle ones at the end. -/
def dropIdleEnd (components : List Text) : List Text :=
  (components.reverse.dropWhile isIdle).reverse

/-- Splits off what a path starts from: the root, a leading dot, or nothing. -/
def splitStart : Path → Path × Path
  | '/' :: rest => (['/'], rest)
  | ['.'] => (['.'], [])
  | '.' :: '/' :: rest => (['.'], '/' :: rest)
  | path => ([], path)

/-- The path of the directory that holds the last component.  Idle components beside
the one that is taken off go with it; inner ones stay as they are.  A path with no
component to take off, such as the root, has the empty path as its parent. -/
def parent (path : Path) : Path :=
  let (start, rest) := splitStart path
  match dropIdleEnd (Text.splitAll '/' rest) with
  | [] => []
  | component :: components =>
      start ++ Text.join ['/'] (dropIdleEnd (component :: components).dropLast)

end Path

end SshConfig
