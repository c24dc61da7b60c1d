import SshConfig.CommandLine.Detail
import SshConfig.CommandLine.FieldPattern.Report

namespace SshConfig.CommandLine

/-! Filters that say which events are logged.

A filter is a list of directives with commas between them.  A directive names a target,
that is, where events come from, and gives the detail up to which they are logged.  It can
also ask for a span, in square brackets, and there for a field, in braces.
-/

/-- A field that a directive asks for. -/
structure Field where
  name : Text
  /-- What the value of the field is compared with. -/
  value : Option Text
deriving DecidableEq, Repr

/-- What a directive of a filter asks for. -/
structure FilterDirective where
  target : Option Text := none
  span : Option Text := none
  field : Option Field := none
  detail : Detail := .trace
deriving DecidableEq, Repr

/-- A filter: its directives, in the order in which they are written. -/
abbrev LogFilter := List FilterDirective

namespace LogFilter

/-- What can be wrong with a filter. -/
inductive Fault where
  /-- A directive is not written as it should be. -/
  | directive
  /-- What stands for a detail is none. -/
  | detail
  /-- The value of a field is no expression to compare with. -/
  | field (value : Text) (problem : FieldPattern.Problem)
  /-- A directive would be cut within a character. -/
  | splitCharacter
deriving DecidableEq, Repr

namespace Fault

def detailMessage : Text :=
  ("error parsing level filter: expected one of \"off\", \"error\", \"warn\", " ++
    "\"info\", \"debug\", \"trace\", or a number 0-5").toList

/-- What lies behind the fault, from the outside inwards.  Each view has one line or
more. -/
def sources : Fault → List (List Text)
  | .directive | .splitCharacter => []
  | .detail => [[detailMessage]]
  | .field value problem => problem.views value

/-- The fault in words. -/
def message (fault : Fault) : Text :=
  match fault with
  | .directive => "invalid filter directive".toList
  | .splitCharacter => "a filter directive is cut within a character".toList
  | .detail => detailMessage
  | .field .. =>
      "invalid field filter: ".toList ++ Text.join ['\n'] (fault.sources.headD [])

end Fault

/-! ## Reading -/

/-- A text without the given number of bytes at its front.  There is none if that would
cut a character. -/
def dropBytes? : Nat → Text → Option Text
  | 0, text => some text
  | _, [] => none
  | count, c :: rest =>
      if c.utf8Size ≤ count then dropBytes? (count - c.utf8Size) rest else none

/-- The given number of bytes at the front of a text.  There are none if that would cut a
character. -/
def takeBytes? : Nat → Text → Option Text
  | 0, _ => some []
  | _, [] => none
  | count, c :: rest =>
      if c.utf8Size ≤ count then (takeBytes? (count - c.utf8Size) rest).map (c :: ·)
      else none

/-- What stands between two places of a text, which are counted in bytes. -/
def cut (text : Text) (start stop : Nat) : Except Fault Text :=
  match (dropBytes? start text).bind (takeBytes? (stop - start)) with
  | some piece => if stop < start then .error .splitCharacter else .ok piece
  | none => .error .splitCharacter

/-- What stands after a place of a text, which is counted in bytes. -/
def cutFrom (text : Text) (start : Nat) : Except Fault Text :=
  match dropBytes? start text with
  | some rest => .ok rest
  | none => .error .splitCharacter

/-- Whether a text is the end of a number: nothing, or a power of ten. -/
def isExponent : Text → Bool
  | [] => true
  | mark :: rest =>
      let digits := match rest with
        | '+' :: digits | '-' :: digits => digits
        | _ => rest
      (mark == 'e' || mark == 'E') && !digits.isEmpty && digits.all Char.isDigit

/-- Whether a text is a number, which can have a sign, a fraction and a power of ten, or
be infinite or none. -/
def isNumber (text : Text) : Bool :=
  let unsigned := match text with
    | '+' :: rest | '-' :: rest => rest
    | _ => text
  let rest := unsigned.dropWhile Char.isDigit
  let (fraction, rest) := match rest with
    | '.' :: rest => (rest.takeWhile Char.isDigit, rest.dropWhile Char.isDigit)
    | _ => ([], rest)
  let hasDigits := !(unsigned.takeWhile Char.isDigit).isEmpty || !fraction.isEmpty
  hasDigits && isExponent rest ||
    ["inf", "infinity", "nan"].any fun name => Text.sameLetters name.toList unsigned

/-- Reads a field.  Its value is a number or an expression, and ends at a second equals
sign. -/
def readField (text : Text) : Except Fault Field :=
  match Text.splitAll '=' text with
  | name :: value :: _ =>
      if isNumber value then .ok { name, value := some value }
      else
        match FieldPattern.problem? value with
        | some problem => .error (.field value problem)
        | none => .ok { name, value := some value }
  | _ => .ok { name := text, value := none }

/-- Where a reader of a directive stands. -/
inductive Stage where
  | start
  /-- In a word that began at a place and is a target or a detail. -/
  | word (start : Nat)
  /-- In the name of a span that began at a place. -/
  | span (start : Nat)
  /-- In a field that began at a place. -/
  | field (start : Nat)
  /-- After a field. -/
  | afterField
  /-- After a span. -/
  | afterSpan
  /-- In a detail that began at a place. -/
  | detail (start : Nat)
deriving DecidableEq, Repr

/-- Whether a word can begin with a character. -/
def beginsWord (c : Char) : Bool :=
  c == '-' || c == ':' || c == '_' || Text.isLetterOrNumber c

/-- Reads the character at a place of a directive, and cuts names out of the text of the
directive where they end. -/
def advance (text : Text) (place : Nat) (c : Char) (directive : FilterDirective) :
    Stage → Except Fault (Stage × FilterDirective)
  | .start =>
      if c == '[' then .ok (.span (place + 1), directive)
      else if beginsWord c then .ok (.word place, directive)
      else .error .directive
  | .word start =>
      if c == '=' then do
        return (.detail (place + 1), { directive with target := some (← cut text start place) })
      else if c == '[' then do
        return (.span (place + 1), { directive with target := some (← cut text start place) })
      else .ok (.word start, directive)
  | .span start =>
      if c == ']' then do
        return (.afterSpan, { directive with span := some (← cut text start place) })
      else if c == '{' then do
        let name ← cut text start place
        let span := if name.isEmpty then none else some name
        return (.field (place + 1), { directive with span })
      else .ok (.span start, directive)
  | .field start =>
      if c == '}' then do
        let content ← cut text start place
        if content.isEmpty then throw .directive
        return (.afterField, { directive with field := some (← readField content) })
      else .ok (.field start, directive)
  | .afterField => if c == ']' then .ok (.afterSpan, directive) else .error .directive
  | .afterSpan =>
      if c == '=' then .ok (.detail (place + 1), directive) else .error .directive
  | .detail start => .ok (.detail start, directive)

/-- Reads characters, the first of which is at the given place. -/
def advanceAll (text : Text) (stage : Stage) (directive : FilterDirective) (place : Nat) :
    Text → Except Fault (Stage × FilterDirective)
  | [] => .ok (stage, directive)
  | c :: rest => do
      let (next, longer) ← advance text place c directive stage
      advanceAll text next longer (place + c.utf8Size) rest

/-- Reads the end of a directive.  A single word is a detail or, with all detail, a
target. -/
def finish (text : Text) (directive : FilterDirective) :
    Stage → Except Fault FilterDirective
  | .word start => do
      let word ← cutFrom text start
      match Detail.ofText? word with
      | some detail => return { directive with detail }
      | none => return { directive with target := some word }
  | .detail start => do
      let word ← cutFrom text start
      match Detail.ofText? word with
      | some detail => return { directive with detail }
      | none => if word.isEmpty then return directive else throw .detail
  | .afterSpan => .ok directive
  | .start | .span _ | .field _ | .afterField => .error .directive

/-- Reads a directive.  White space around it is passed over, but the places of what it
consists of are counted as if the text began without any. -/
def readDirective (text : Text) : Except Fault FilterDirective := do
  let (stage, directive) ← advanceAll text .start {} 0 (Text.trim text)
  finish text directive stage

/-- Reads a filter.  Empty directives are passed over. -/
def read (text : Text) : Except Fault LogFilter :=
  ((Text.splitAll ',' text).filter fun directive => !directive.isEmpty).mapM readDirective

/-! ## Events -/

/-- Whether a directive holds for events outside of spans that come from the given
place.  Such events have no field but their message. -/
def concerns (origin : Text) (directive : FilterDirective) : Bool :=
  directive.span.isNone &&
    directive.target.all (fun target => target.isPrefixOf origin) &&
    directive.field.all fun field => field.value.isNone && field.name == "message".toList

/-- How particular a directive is: a longer target counts before a field. -/
def precision (directive : FilterDirective) : Nat × Nat :=
  ((directive.target.map fun target => target.length + 1).getD 0,
    if directive.field.isSome then 1 else 0)

/-- Whether a directive is at least as particular as another one. -/
def isAsPrecise (directive other : FilterDirective) : Bool :=
  let (target, field) := precision directive
  let (otherTarget, otherField) := precision other
  otherTarget < target || otherTarget == target && otherField ≤ field

/-- Whether events of a detail that come from the given place are logged.  The most
particular directive decides, and the last one of several. -/
def admits (filter : LogFilter) (origin : Text) (detail : Detail) : Bool :=
  let decisive := (filter.filter (concerns origin)).foldl
    (fun best directive =>
      match best with
      | none => some directive
      | some other => if isAsPrecise directive other then some directive else some other)
    none
  decisive.any fun directive => detail.rank ≤ directive.detail.rank

end LogFilter

end SshConfig.CommandLine
