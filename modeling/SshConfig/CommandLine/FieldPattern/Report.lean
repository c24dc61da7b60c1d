import SshConfig.CommandLine.FieldPattern.Support

namespace SshConfig.CommandLine.FieldPattern

/-! Reports of what is wrong with an expression, for the user.

A mistake is shown below the line of the expression where it stands.  An expression of
several lines stands between dividing lines, its lines with their numbers.
-/

/-- A place as the number of a line and that of a column, both counted from one. -/
structure Position where
  line : Nat
  column : Nat
deriving DecidableEq, Repr

/-- The position of a place in a text. -/
def Position.ofPlace (text : Text) (place : Nat) : Position :=
  let before := text.take place
  { line := before.count '\n' + 1
    column := (before.reverse.takeWhile (· != '\n')).length + 1 }

namespace Mistake

/-- The stretches to point at, in the order of the text. -/
def spans (mistake : Mistake) : List Span :=
  mistake.earlier.toList ++ [mistake.span]

/-- The stretches to point at, from one position to another. -/
def stretches (text : Text) (mistake : Mistake) : List (Position × Position) :=
  mistake.spans.map fun span => (.ofPlace text span.start, .ofPlace text span.stop)

end Mistake

/-- Marks below columns of a line, from the given column on.  At least one mark stands for
each stretch. -/
def marks (column : Nat) : List (Position × Position) → Text
  | [] => []
  | (start, stop) :: rest =>
      let count := max 1 (stop.column - start.column)
      List.replicate (start.column - column) ' ' ++ List.replicate count '^' ++
        marks (max column start.column + count) rest

/-- A number with spaces before it, so that it takes the given number of columns. -/
def alignedNumber (columns number : Nat) : Text :=
  let digits := (toString number).toList
  List.replicate (columns - digits.length) ' ' ++ digits

/-- Lines with their numbers from the given one on, and below them the marks for the
stretches on them.  A text of a single line has no number. -/
def markedLines (columns : Nat) (stretches : List (Position × Position)) (number : Nat) :
    List Text → List Text
  | [] => []
  | line :: rest =>
      let label := if columns = 0 then "    ".toList
        else alignedNumber columns number ++ ": ".toList
      let here := stretches.filter fun stretch =>
        stretch.1.line = number && stretch.2.line = number
      let below := if here.isEmpty then []
        else [List.replicate label.length ' ' ++ marks 1 here]
      (label ++ line) :: below ++ markedLines columns stretches (number + 1) rest

/-- A stretch over several lines in words. -/
def stretchText (start stop : Position) : String :=
  "on line " ++ toString start.line ++ " (column " ++ toString start.column ++
    ") through line " ++ toString stop.line ++ " (column " ++
    toString (stop.column - 1) ++ ")"

/-- The report of a mistake, line by line. -/
def Mistake.report (text : Text) (mistake : Mistake) : List Text :=
  let stretches := mistake.stretches text
  let heading := "regex parse error:".toList
  let fault := ("error: " ++ mistake.fault.message).toList
  if text.contains '\n' then
    let lines := Text.lines text
    let count := lines.length + if text.getLast? = some '\n' then 1 else 0
    let columns := if count ≤ 1 then 0 else (toString count).length
    let divider := List.replicate 79 '~'
    let long := stretches.filter fun stretch => stretch.1.line != stretch.2.line
    [heading, divider] ++ markedLines columns stretches 1 lines ++ [divider] ++
      (long.map fun stretch => (stretchText stretch.1 stretch.2).toList) ++ [fault]
  else heading :: markedLines 0 stretches 1 [text] ++ [fault]

/-- What is wrong with an expression, from the outermost view of it inwards.  Each view
has one line or more. -/
def Problem.views (text : Text) : Problem → List (List Text)
  | .mistake found =>
      [["error building NFA".toList], ["error parsing regex".toList], found.report text]
  | .wordEdge =>
      [[("unsupported regex feature for DFAs: cannot build DFAs for regexes with Unicode " ++
        "word boundaries; switch to ASCII word boundaries, or heuristically enable " ++
        "Unicode word boundaries or use a different regex engine").toList]]

end SshConfig.CommandLine.FieldPattern
