import SshConfig.Interpretation

namespace SshConfig

/-! What an interpretation tells of its way: the events, in the order in which they come
about, up to the failure that ends it or to the end of the text.

Every event has a route, that is, the lines and files that lead to it from the outermost
text, as they are told in a failure.
-/

/-- Something that an interpretation tells of. -/
inductive Event where
  /-- A line has a keyword that is not known. -/
  | unknownKeyword
  /-- The file at a path is about to be included. -/
  | inclusion (path : Path)
deriving DecidableEq, Repr

/-- An event and the way to it, from the outermost text inwards. -/
structure JournalEntry where
  route : List Layer := []
  event : Event
deriving DecidableEq, Repr

/-- The entry as it is seen from one step further out. -/
def JournalEntry.within (layer : Layer) (entry : JournalEntry) : JournalEntry :=
  { entry with route := layer :: entry.route }

/-- The entries of a journal. -/
abbrev Journal := List JournalEntry

/-- How the journal of a text at a place is kept. -/
abbrev Journalist := Place → Text → Draft → Journal

/-- How included files are interpreted, and how the journal of it is kept. -/
structure Nested where
  interpret : Interpretation
  tell : Journalist

/-- The journal of the inclusion of the file that one argument names. -/
def includeFileJournal (surroundings : Surroundings) (nested : Option Nested)
    (place : Place) (argument : Text) (draft : Draft) : Journal :=
  match includedPath surroundings.home place.directory argument, nested with
  | .ok path, some nested =>
      { event := .inclusion path } ::
        match surroundings.files.text path with
        | .error _ => []
        | .ok text =>
            (nested.tell (.ofFile path) text draft).map (JournalEntry.within (.file path))
  | _, _ => []

/-- The journal of an `Include` line. -/
def includeFilesJournal (surroundings : Surroundings) (nested : Option Nested)
    (place : Place) : List Text → Draft → Journal
  | [], _ => []
  | argument :: rest, draft =>
      let outcome := includeFile surroundings (nested.map Nested.interpret) place argument
        draft
      includeFileJournal surroundings nested place argument draft ++
        match outcome.failure with
        | some _ => []
        | none => includeFilesJournal surroundings nested place rest outcome.draft

/-- The journal of one line. -/
def lineJournal (surroundings : Surroundings) (nested : Option Nested) (place : Place)
    (text : Text) (draft : Draft) : Journal :=
  match Line.read text with
  | .ok (.unknown _) => [{ event := .unknownKeyword }]
  | .ok (.directive .inclusion arguments) =>
      includeFilesJournal surroundings nested place arguments draft
  | _ => []

/-- The journal of lines, the first of which has the given number. -/
def linesJournal (surroundings : Surroundings) (nested : Option Nested) (place : Place) :
    Nat → List Text → Draft → Journal
  | _, [], _ => []
  | number, line :: rest, draft =>
      let outcome := interpretLine surroundings (nested.map Nested.interpret) place number
        line draft
      (lineJournal surroundings nested place line draft).map
          (JournalEntry.within (.line number)) ++
        match outcome.failure with
        | some _ => []
        | none => linesJournal surroundings nested place (number + 1) rest outcome.draft

/-- The journal of a text in which inclusion may go the given number of levels deep. -/
def journal (surroundings : Surroundings) : Nat → Journalist
  | 0, place, text, draft =>
      linesJournal surroundings none place 1 (Text.lines text) draft
  | levels + 1, place, text, draft =>
      let nested := { interpret := interpret surroundings levels
                      tell := journal surroundings levels }
      linesJournal surroundings (some nested) place 1 (Text.lines text) draft

/-- The journal of parsing the file at a path. -/
def fileJournal (surroundings : Surroundings) (path : Path) : Journal :=
  match surroundings.files.text path with
  | .error _ => []
  | .ok text =>
      journal surroundings includeLimit (.ofFile path) text { config := { source := path } }

end SshConfig
