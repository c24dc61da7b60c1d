import SshConfig.FileSystem

namespace SshConfig

/-! A tree of directories and files, in which paths are followed step by step. -/

/-- Why the system does not open or create a file. -/
inductive SystemError where
  | notFound
  | permissionDenied
  | notADirectory
  | isADirectory
  | nameTooLong
  | other (number : Nat) (description : String)
deriving DecidableEq, Repr

/-- The error in words. -/
def SystemError.message : SystemError → String
  | .notFound => "No such file or directory (os error 2)"
  | .permissionDenied => "Permission denied (os error 13)"
  | .notADirectory => "Not a directory (os error 20)"
  | .isADirectory => "Is a directory (os error 21)"
  | .nameTooLong => "File name too long (os error 36)"
  | .other number description => description ++ " (os error " ++ toString number ++ ")"

/-- What the error with a number means for a file that is to be read. -/
def ReadFailure.ofNumber : Nat → ReadFailure
  | 1 => .permissionDenied
  | 4 => .interrupted
  | 11 => .named "operation would block"
  | 12 => .named "out of memory"
  | 16 => .named "resource busy"
  | 22 => .invalidInput
  | 26 => .named "executable file busy"
  | 40 => .named "filesystem loop or indirection limit (e.g. symlink loop)"
  | 110 => .timedOut
  | 116 => .named "stale network file handle"
  | _ => .named "uncategorized error"

/-- What the error means for a file that is to be read. -/
def SystemError.readFailure : SystemError → ReadFailure
  | .notFound => .notFound
  | .permissionDenied => .permissionDenied
  | .notADirectory => .notADirectory
  | .isADirectory => .isADirectory
  | .nameTooLong => .invalidFilename
  | .other number _ => .ofNumber number

/-- The way to a file or a directory: the names from the root on. -/
abbrev Location := List Text

/-- A tree, given by the locations of its files and directories.  What holds a file or a
directory is a directory too. -/
structure FileTree where
  workingDirectory : Location
  directories : List Location := []
  files : List (Location × Bytes) := []
  /-- The files that keep nothing of what is written to them. -/
  sinks : List Location := []
deriving Repr

namespace FileTree

/-- The most bytes that a name can have. -/
def nameLimit : Nat := 255

/-- The most bytes that a path can have. -/
def pathLimit : Nat := 4095

/-- The number of bytes in the encoding of a text. -/
def byteCount (text : Text) : Nat :=
  (text.map Char.utf8Size).foldl (· + ·) 0

def file? (tree : FileTree) (location : Location) : Option Bytes :=
  tree.files.lookup location

def isDirectory (tree : FileTree) (location : Location) : Bool :=
  (tree.workingDirectory :: tree.directories).any location.isPrefixOf ||
    tree.files.any fun entry => location.isPrefixOf entry.1 && location != entry.1

/-- Follows the components of a path from a location.  Every component but the last has
to lead to a directory; so does the last one if a slash comes after it. -/
def walk (tree : FileTree) (location : Location) : List Text →
    Except SystemError Location
  | [] => .ok location
  | component :: rest =>
      if !tree.isDirectory location then .error .notADirectory
      else if Path.isIdle component then walk tree location rest
      else if component == ['.', '.'] then walk tree location.dropLast rest
      else if nameLimit < byteCount component then .error .nameTooLong
      else
        let next := location ++ [component]
        if tree.isDirectory next || (tree.file? next).isSome then walk tree next rest
        else .error .notFound

/-- Where a path starts from, and its components. -/
def start (tree : FileTree) (path : Path) : Location × List Text :=
  (if Path.isAbsolute path then [] else tree.workingDirectory, Text.splitAll '/' path)

/-- The location that a path leads to. -/
def locate (tree : FileTree) (path : Path) : Except SystemError Location :=
  if path.isEmpty then .error .notFound
  else if pathLimit < byteCount path then .error .nameTooLong
  else
    let (location, components) := tree.start path
    tree.walk location components

/-- Whether a path leads to a file or a directory. -/
def isPresent (tree : FileTree) (path : Path) : Bool :=
  match tree.locate path with
  | .ok _ => true
  | .error _ => false

/-- Reads the file at a path. -/
def read (tree : FileTree) : FileSystem := fun path =>
  if path.contains '\x00' then .error .invalidInput
  else
    match tree.locate path with
    | .error error => .error error.readFailure
    | .ok location =>
        match tree.file? location with
        | none => .error .isADirectory
        | some content => .ok content

/-- The tree as it is found by paths. -/
def disk (tree : FileTree) : Disk where
  files := tree.read
  isPresent := tree.isPresent

/-- The tree with a file at a location, in place of one that is there. -/
def put (tree : FileTree) (location : Location) (content : Bytes) : FileTree :=
  { tree with
    files := (location, content) :: tree.files.filter fun entry => entry.1 != location }

/-- Creates an empty file at a path, or empties the file that is there.  The last
component has to be a name without a slash after it.  Gives the location of the file
too. -/
def create (tree : FileTree) (path : Path) : Except SystemError (FileTree × Location) :=
  if path.isEmpty then .error .notFound
  else if pathLimit < byteCount path then .error .nameTooLong
  else
    let (location, components) := tree.start path
    let named := (components.reverse.dropWhile List.isEmpty).reverse
    match tree.walk location named.dropLast, named.getLast? with
    | .error error, _ => .error error
    | .ok _, none => .error .isADirectory
    | .ok directory, some name =>
        let target := directory ++ [name]
        if !tree.isDirectory directory then .error .notADirectory
        else if name == ['.'] || name == ['.', '.'] || named.length < components.length ||
            tree.isDirectory target then .error .isADirectory
        else if nameLimit < byteCount name then .error .nameTooLong
        else .ok (tree.put target [], target)

/-- Whether a path leads to a file that keeps what is written to it, at the given
location. -/
def keepsAt (tree : FileTree) (location : Location) (path : Path) : Bool :=
  !tree.sinks.contains location &&
    match tree.locate path with
    | .ok found => found == location
    | .error _ => false

/-- Where a component leads to when nothing is in its way. -/
def descend (location : Location) (component : Text) : Location :=
  if Path.isIdle component then location
  else if component == ['.', '.'] then location.dropLast
  else location ++ [component]

/-- The locations that components lead through, from the first one to the last. -/
def locations (location : Location) : List Text → List Location
  | [] => [location]
  | component :: rest => location :: locations (descend location component) rest

/-- The tree with a file at a path, and with all directories that the path leads
through. -/
def write (tree : FileTree) (path : Path) (content : Bytes) : FileTree :=
  let (location, components) := tree.start path
  let visited := locations location components
  { tree with directories := visited.dropLast ++ tree.directories }.put
    (visited.getLastD location) content

/-- The tree with the files at the given paths. -/
def ofFiles (workingDirectory : Location) (files : List (Path × Bytes)) : FileTree :=
  files.foldl (fun tree file => tree.write file.1 file.2) { workingDirectory }

end FileTree

end SshConfig
