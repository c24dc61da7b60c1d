import SshConfig.Draft
import SshConfig.Homes
import SshConfig.Line

namespace SshConfig

/-! Interpretation of a text, and of the files that it includes, line by line.

An interpretation goes on until a line fails.  What the lines before it did to the
draft stays done, and so does what a file did before the line of it that failed; only
the current block is then the one from before that file.
-/

/-- What an interpretation can turn to. -/
structure Surroundings where
  files : FileSystem
  /-- The directories that a leading tilde stands for. -/
  home : Homes

/-- Where the text that is interpreted stands. -/
structure Place where
  source : Text
  /-- Included files that are not named from the root are looked for here. -/
  directory : Path
deriving DecidableEq, Repr

/-- The place of the text of a file. -/
def Place.ofFile (path : Path) : Place where
  source := path
  directory := Path.parent path

/-- What a stretch of text did: the draft that it leaves, and the failure that ended
it, if any. -/
structure Outcome where
  draft : Draft
  failure : Option Failure := none
deriving DecidableEq, Repr

namespace Outcome

/-- Goes on with the draft unless there was a failure. -/
def andThen (outcome : Outcome) (next : Draft → Outcome) : Outcome :=
  match outcome.failure with
  | none => next outcome.draft
  | some _ => outcome

/-- The outcome as it is seen from one step further out. -/
def within (layer : Layer) (outcome : Outcome) : Outcome :=
  { outcome with failure := outcome.failure.map (Failure.within layer) }

/-- The outcome of something that leaves the draft alone when it fails. -/
def ofResult (draft : Draft) : Except ConfigError Draft → Outcome
  | .ok next => { draft := next }
  | .error cause => { draft, failure := some (Failure.ofCause cause) }

end Outcome

/-- How a text is interpreted at a place. -/
abbrev Interpretation := Place → Text → Draft → Outcome

/-- The path that an argument of an `Include` line means.  A home directory is put in
the place of a leading tilde, and the result is looked for below the directory unless it
is absolute. -/
def includedPath (home : Homes) (directory : Path) (argument : Text) :
    Except ConfigError Path :=
  match home.expand argument with
  | none => .error (.unreadable .included argument none .other)
  | some path => .ok (Path.join directory path)

/-- Interprets the file that one argument of an `Include` line names, by `nested` if
another level of inclusion is allowed. -/
def includeFile (surroundings : Surroundings) (nested : Option Interpretation)
    (place : Place) (argument : Text) (draft : Draft) : Outcome :=
  match includedPath surroundings.home place.directory argument with
  | .error cause => .ofResult draft (.error cause)
  | .ok path =>
      match nested with
      | none => .ofResult draft (.error .includeDepth)
      | some interpret =>
          match surroundings.files.text path with
          | .error failure =>
              .ofResult draft (.error (.unreadable .included argument (some path) failure))
          | .ok text =>
              let inner := interpret (.ofFile path) text draft
              match inner.failure with
              | none => inner
              | some failure =>
                  { draft := { inner.draft with current := draft.current }
                    failure := some (failure.within (.file path)) }

/-- Interprets the files of an `Include` line one after the other. -/
def includeFiles (surroundings : Surroundings) (nested : Option Interpretation)
    (place : Place) : List Text → Draft → Outcome
  | [], draft => { draft }
  | argument :: rest, draft =>
      (includeFile surroundings nested place argument draft).andThen
        (includeFiles surroundings nested place rest)

/-- Carries out a directive that stands on the given line. -/
def carryOut (surroundings : Surroundings) (nested : Option Interpretation)
    (place : Place) (line : Nat) (directive : Directive) (draft : Draft) : Outcome :=
  match directive with
  | .header header => { draft := draft.openBlock header ⟨place.source, line⟩ }
  | .setting setting => .ofResult draft (draft.set setting)
  | .inclusion arguments => includeFiles surroundings nested place arguments draft

/-- Carries out a keyword with arguments. -/
def dispatch (surroundings : Surroundings) (nested : Option Interpretation)
    (place : Place) (line : Nat) (keyword : Keyword) (arguments : List Text)
    (draft : Draft) : Outcome :=
  match Directive.read keyword arguments with
  | .error cause => .ofResult draft (.error cause)
  | .ok directive => carryOut surroundings nested place line directive draft

/-- Carries out one line. -/
def interpretLine (surroundings : Surroundings) (nested : Option Interpretation)
    (place : Place) (line : Nat) (text : Text) (draft : Draft) : Outcome :=
  match Line.read text with
  | .error fault => .ofResult draft (.error (.line fault))
  | .ok .empty => { draft }
  | .ok (.unknown _) => { draft }
  | .ok (.directive keyword arguments) =>
      dispatch surroundings nested place line keyword arguments draft

/-- Carries out lines, the first of which has the given number. -/
def interpretLines (surroundings : Surroundings) (nested : Option Interpretation)
    (place : Place) : Nat → List Text → Draft → Outcome
  | _, [], draft => { draft }
  | number, line :: rest, draft =>
      ((interpretLine surroundings nested place number line draft).within
        (.line number)).andThen
        (interpretLines surroundings nested place (number + 1) rest)

/-- Interprets a text in which inclusion may go the given number of levels deep. -/
def interpret (surroundings : Surroundings) : Nat → Interpretation
  | 0, place, text, draft =>
      interpretLines surroundings none place 1 (Text.lines text) draft
  | levels + 1, place, text, draft =>
      interpretLines surroundings (some (interpret surroundings levels)) place 1
        (Text.lines text) draft

/-- Interprets a text that `depth` files enclose. -/
def interpretAt (surroundings : Surroundings) (depth : Nat) : Interpretation :=
  interpret surroundings (includeLimit - depth)

/-- What the interpretation of a whole text gives: its configuration or the failure. -/
def parseAt (surroundings : Surroundings) (place : Place) (text : Text) :
    Except Failure Config :=
  let outcome := interpretAt surroundings 0 place text
    { config := { source := place.source } }
  match outcome.failure with
  | none => .ok outcome.draft.config
  | some failure => .error failure

/-- Parses a text that did not come from a file. -/
def parseText (surroundings : Surroundings) (directory : Path) (text : Text) :
    Except Failure Config :=
  parseAt surroundings ⟨"<string>".toList, directory⟩ text

/-- Parses the file at a path. -/
def parseFile (surroundings : Surroundings) (path : Path) : Except Failure Config :=
  match surroundings.files.text path with
  | .error failure =>
      .error (Failure.ofCause (.unreadable .configuration path none failure))
  | .ok text => parseAt surroundings (.ofFile path) text

end SshConfig
