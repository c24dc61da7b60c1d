import SshConfig.Text.Basic

namespace SshConfig.Text

/-! What of a text is printed where the reader is no terminal.

Control sequences of a terminal are left out, and so are control characters other than
white space.  A sequence begins with the escape character; which characters belong to
it depends on its kind.

A text is written piece by piece.  White space within a sequence is printed, and so is
all that comes after it in the same piece; the next piece goes on with the sequence.
-/

/-- Where a reader of control sequences stands. -/
inductive ControlState where
  /-- Outside control sequences. -/
  | ground
  /-- After an escape character. -/
  | escape
  /-- After an escape character and intermediate characters. -/
  | escapeIntermediate
  /-- In a control sequence, which a character from `@` to `~` ends. -/
  | controlSequence
  /-- At the beginning of a string for the device. -/
  | deviceEntry
  /-- After parameters of a string for the device. -/
  | deviceParameter
  /-- After intermediate characters of a string for the device. -/
  | deviceIntermediate
  /-- In a string of any kind that ends at a terminator. -/
  | controlString
  /-- In a command for the operating system, which ends at a bell. -/
  | systemCommand
deriving DecidableEq, Repr

/-- White space among the control characters of ASCII. -/
def isControlBlank (c : Char) : Bool :=
  c == '\t' || c == '\n' || c == '\x0C' || c == '\r'

/-- Whether a character is printed outside control sequences. -/
def isPrinted (c : Char) : Bool :=
  isControlBlank c || (0x20 ≤ c.toNat && c.toNat != 0x7F)

/-- Whether the encoding of a character contains the byte that ends strings. -/
def holdsTerminator (c : Char) : Bool :=
  (String.utf8EncodeChar c).contains 0x9C

namespace ControlState

/-- The state after a character that is not printed. -/
def next (state : ControlState) (c : Char) : ControlState :=
  let n := c.toNat
  let isIntermediate := 0x20 ≤ n && n ≤ 0x2F
  let isParameter := 0x30 ≤ n && n ≤ 0x3F
  let isFinal := 0x40 ≤ n && n ≤ 0x7E
  if n = 0x18 || n = 0x1A then .ground
  else if n = 0x1B then .escape
  else
    match state with
    | .ground => .ground
    | .escape =>
        if isIntermediate then .escapeIntermediate
        else if c = '[' then .controlSequence
        else if c = ']' then .systemCommand
        else if c = 'P' then .deviceEntry
        else if c = 'X' || c = '^' || c = '_' then .controlString
        else if isParameter || isFinal then .ground
        else .escape
    | .escapeIntermediate =>
        if isParameter || isFinal then .ground else .escapeIntermediate
    | .controlSequence => if isFinal then .ground else .controlSequence
    | .deviceEntry =>
        if isIntermediate then .deviceIntermediate
        else if isParameter then .deviceParameter
        else if isFinal then .controlString
        else .deviceEntry
    | .deviceParameter =>
        if isIntermediate then .deviceIntermediate
        else if isFinal || 0x3C ≤ n && n ≤ 0x3F then .controlString
        else .deviceParameter
    | .deviceIntermediate =>
        if isParameter || isFinal then .controlString else .deviceIntermediate
    | .controlString => if 0x80 ≤ n && holdsTerminator c then .ground else .controlString
    | .systemCommand => if n = 0x07 then .ground else .systemCommand

/-- Whether a character is the first to be printed of a piece, or after one that is
not. -/
def prints (state : ControlState) (c : Char) : Bool :=
  match state with
  | .ground => isPrinted c
  | .escape | .escapeIntermediate | .controlSequence => isControlBlank c
  | .deviceEntry | .deviceParameter | .deviceIntermediate | .controlString
  | .systemCommand => false

/-- Reads on in a piece, of which the character before was printed or not: gives what is
printed and the state for the next piece.  A printed character beyond ASCII ends any
sequence. -/
def readPiece (state : ControlState) (printing : Bool) : Text → Text × ControlState
  | [] => ([], state)
  | c :: rest =>
      if printing && isPrinted c || state.prints c then
        let after := if 0x80 ≤ c.toNat then .ground else state
        let (printed, last) := readPiece after true rest
        (c :: printed, last)
      else readPiece (state.next c) false rest

/-- What is printed of pieces. -/
def readPieces (state : ControlState) : List Text → Text
  | [] => []
  | piece :: pieces =>
      let (printed, last) := state.readPiece false piece
      printed ++ readPieces last pieces

end ControlState

/-- What is printed of a text that is written in the given pieces. -/
def printable (pieces : List Text) : Text :=
  ControlState.ground.readPieces pieces

end SshConfig.Text
