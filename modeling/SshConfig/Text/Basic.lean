namespace SshConfig

/-! Text as the rest of the library sees it: a list of characters.

Every rule of the configuration format is a rule about characters, so readers and
printers are recursions on lists.  Conversion to and from `String` happens where a
literal enters and where a message leaves.
-/

/-- A text is the list of its characters. -/
abbrev Text := List Char

/-- The contents of a file before they are decoded. -/
abbrev Bytes := List UInt8

namespace Text

/-- The pieces of a text between the occurrences of `separator`; there is always at
least one. -/
def splitAll (separator : Char) : Text → List Text
  | [] => [[]]
  | c :: rest =>
      if c = separator then [] :: splitAll separator rest
      else
        match splitAll separator rest with
        | [] => [[c]]
        | piece :: pieces => (c :: piece) :: pieces

/-- What stands before and after the first `separator`, if there is one. -/
def splitFirst (separator : Char) (text : Text) : Option (Text × Text) :=
  match text.dropWhile (· != separator) with
  | [] => none
  | _ :: after => some (text.takeWhile (· != separator), after)

/-- The texts in order with `separator` between neighbours. -/
def join (separator : Text) (texts : List Text) : Text :=
  separator.intercalate texts

/-- A line feed ends a line, together with one carriage return before it. -/
def dropReturn (line : Text) : Text :=
  if line.getLast? = some '\r' then line.dropLast else line

/-- Reads lines off the pieces between line feeds.  Nothing follows the last line
feed of a text that ends in one, and what follows it otherwise is not ended by a line
feed, so it keeps its carriage return. -/
def linesOfPieces : List Text → List Text
  | [] => []
  | [last] => if last.isEmpty then [] else [last]
  | piece :: next :: pieces => dropReturn piece :: linesOfPieces (next :: pieces)

/-- The lines of a text. -/
def lines (text : Text) : List Text :=
  linesOfPieces (splitAll '\n' text)

theorem splitAll_ne_nil (separator : Char) (text : Text) :
    splitAll separator text ≠ [] := by
  cases text with
  | nil => simp [splitAll]
  | cons c rest =>
      unfold splitAll
      split
      · simp
      · split <;> simp

end Text

end SshConfig
