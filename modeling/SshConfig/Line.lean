import SshConfig.Error
import SshConfig.Text.Blank

namespace SshConfig

/-! The lines of a configuration.

A line is a keyword followed by arguments.  The keyword is set off by white space or by
one equals sign with any white space around it.  Arguments are set off by white space;
one that contains white space, or is empty, is written between quotation marks.
-/

/-- Where a reader of arguments stands. -/
inductive ArgumentState where
  /-- Before an argument or the end. -/
  | between
  /-- In an argument without quotes, of which `word` was read. -/
  | bare (word : Text)
  /-- In a quoted argument, of which `word` was read. -/
  | quoted (word : Text)
  /-- In a quoted argument, after a backslash. -/
  | escaped (word : Text)
  /-- After the mark that ends a quoted argument. -/
  | closed
deriving DecidableEq, Repr

/-- Reads the arguments that begin or go on at the given state.  Between quotation
marks a backslash makes a mark or a backslash after it an ordinary character; before
anything else, and everywhere outside quotation marks, it is an ordinary character
itself. -/
def readArgumentsFrom : ArgumentState → Text → Except LineFault (List Text)
  | .between, [] => .ok []
  | .between, c :: rest =>
      if Text.isBlank c then readArgumentsFrom .between rest
      else if c = '"' then readArgumentsFrom (.quoted []) rest
      else readArgumentsFrom (.bare [c]) rest
  | .bare word, [] => .ok [word]
  | .bare word, c :: rest =>
      if Text.isBlank c then (readArgumentsFrom .between rest).map (word :: ·)
      else if c = '"' then .error .quoteWithinArgument
      else readArgumentsFrom (.bare (word ++ [c])) rest
  | .quoted _, [] => .error .unfinishedQuote
  | .quoted word, c :: rest =>
      if c = '"' then (readArgumentsFrom .closed rest).map (word :: ·)
      else if c = '\\' then readArgumentsFrom (.escaped word) rest
      else readArgumentsFrom (.quoted (word ++ [c])) rest
  | .escaped _, [] => .error .unfinishedQuote
  | .escaped word, c :: rest =>
      if c = '"' || c = '\\' then readArgumentsFrom (.quoted (word ++ [c])) rest
      else readArgumentsFrom (.quoted (word ++ ['\\', c])) rest
  | .closed, [] => .ok []
  | .closed, c :: rest =>
      if Text.isBlank c then readArgumentsFrom .between rest else .error .textAfterQuote

/-- The arguments that a text consists of. -/
def readArguments (text : Text) : Except LineFault (List Text) :=
  readArgumentsFrom .between text

/-- A line as it is understood before its arguments are. -/
inductive Line where
  /-- White space, or a comment. -/
  | empty
  | directive (keyword : Keyword) (arguments : List Text)
  /-- A keyword without effect, in small letters.  What follows it is not read, and may
  be written in any way. -/
  | unknown (keyword : Text)
deriving DecidableEq, Repr

namespace Line

/-- Splits a trimmed line into its keyword and the text of the arguments. -/
def splitKeyword (line : Text) : Option (Text × Text) :=
  match line.takeWhile Text.isWordChar, line.dropWhile Text.isWordChar with
  | [], _ => none
  | word, [] => some (word, [])
  | word, c :: rest =>
      match Text.trimStart (c :: rest) with
      | '=' :: value => some (word, Text.trimStart value)
      | value => if Text.isBlank c then some (word, value) else none

/-- Reads one line. -/
def read (text : Text) : Except LineFault Line :=
  match Text.trim text with
  | [] => .ok .empty
  | '#' :: _ => .ok .empty
  | line =>
      match splitKeyword line with
      | none => .error .noKeyword
      | some (word, rest) =>
          match Keyword.ofWord? word with
          | none => .ok (.unknown (Text.lowerAscii word))
          | some keyword => (readArguments rest).map (.directive keyword)

end Line

end SshConfig
