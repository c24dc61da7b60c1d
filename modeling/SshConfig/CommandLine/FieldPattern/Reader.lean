import SshConfig.CommandLine.FieldPattern.Basic
import SshConfig.Text.Alphanumeric
import SshConfig.Text.Blank

namespace SshConfig.CommandLine.FieldPattern

/-! Reading of expressions, from left to right and up to the first mistake.

Loops count down from the length of the expression.  Every round takes at least one
character, so the count does not run out before the expression does.
-/

/-- What is left to read of an expression. -/
structure Reader where
  /-- The length of the whole expression. -/
  size : Nat
  rest : Text
  /-- Whether white space and comments stand for nothing. -/
  isLoose : Bool := false
  /-- The names of the groups so far, and where they stand. -/
  names : List (Text × Span) := []

/-- A step of reading. -/
abbrev Reading := StateT Reader (Except Mistake)

/-- Skips white space, and comments from a number sign to the end of the line. -/
def dropBlanks (isComment : Bool) : Text → Text
  | [] => []
  | c :: rest =>
      if isComment then dropBlanks (c != '\n') rest
      else if Text.isBlank c then dropBlanks false rest
      else if c == '#' then dropBlanks true rest
      else c :: rest

namespace Reading

def fail {α : Type} (fault : Fault) (start stop : Nat) : Reading α :=
  throw { fault, span := ⟨start, stop⟩ }

/-- The number of characters that are read already. -/
def place : Reading Nat := do
  let reader ← get
  return reader.size - reader.rest.length

/-- The next character, if there is one. -/
def next? : Reading (Option Char) := do
  return (← get).rest.head?

def atEnd : Reading Bool := do
  return (← get).rest.isEmpty

/-- Fails at the place before the next character. -/
def failHere {α : Type} (fault : Fault) : Reading α := do
  fail fault (← place) (← place)

/-- Fails at the next character. -/
def failAtNext {α : Type} (fault : Fault) : Reading α := do
  fail fault (← place) ((← place) + 1)

/-- Takes a number of characters. -/
def take (count : Nat) : Reading Unit :=
  modify fun reader => { reader with rest := reader.rest.drop count }

def skipBlanks : Reading Unit :=
  modify fun reader =>
    if reader.isLoose then { reader with rest := dropBlanks false reader.rest } else reader

/-- Takes a character and what stands for nothing after it. -/
def takeAndSkip : Reading Unit := do
  take 1
  skipBlanks

/-- Takes the characters of a kind, and after each of them what stands for nothing. -/
def takeWhile (isWanted : Char → Bool) : Nat → Reading Text
  | 0 => return []
  | count + 1 => do
      match ← next? with
      | none => return []
      | some c =>
          if isWanted c then
            takeAndSkip
            return c :: (← takeWhile isWanted count)
          else return []

/-- The number of rounds that any loop may take. -/
def rounds : Reading Nat := do
  return (← get).size

def setLoose (isLoose : Bool) : Reading Unit :=
  modify fun reader => { reader with isLoose }

end Reading

open Reading

/-! ## Elements -/

def isHexadecimal (c : Char) : Bool :=
  c.isDigit || ('a' ≤ c && c ≤ 'f') || ('A' ≤ c && c ≤ 'F')

/-- The number that a hexadecimal digit stands for. -/
def hexadecimalValue (digit : Char) : Nat :=
  if digit.isDigit then digit.toNat - '0'.toNat else digit.toLower.toNat - 'a'.toNat + 10

/-- Reads the given number of hexadecimal digits: gives the number that they make,
beginning from a value. -/
def readDigits (value : Nat) : Nat → Reading Nat
  | 0 => return value
  | count + 1 => do
      match ← next? with
      | none => failHere .unfinishedEscape
      | some digit =>
          if !isHexadecimal digit then failAtNext .notHexadecimal
          takeAndSkip
          readDigits (value * 16 + hexadecimalValue digit) count

/-- Reads a character that is given by its number, after the backslash at a place.
A number in braces is never finished. -/
def readNumbered (start digits : Nat) : Reading Element := do
  takeAndSkip
  let first ← place
  match ← next? with
  | none => failHere .unfinishedEscape
  | some '{' =>
      takeAndSkip
      let _ ← takeWhile isHexadecimal (← rounds)
      if ← atEnd then fail .unfinishedEscape first (← place) else failAtNext .notHexadecimal
  | some _ =>
      let value ← readDigits 0 digits
      let stop ← place
      if value.isValidChar then
        return .letter ⟨⟨start, stop⟩, Char.ofNat value, digits == 2⟩
      else fail .noCharacter first stop

/-- Reads a property, after the backslash at a place.  A name in braces is never
finished. -/
def readProperty (start : Nat) : Reading Element := do
  takeAndSkip
  match ← next? with
  | none => failHere .unfinishedEscape
  | some '{' =>
      take (← rounds)
      failHere .unfinishedEscape
  | some '\\' => failAtNext .invalidProperty
  | some _ =>
      takeAndSkip
      return .property ⟨start, ← place⟩

/-- Refuses a named edge of a word, which is never finished, after the backslash at a
place.  What cannot be a name is left for a count. -/
def refuseEdgeName (start : Nat) : Reading Unit := do
  let before ← get
  let brace ← place
  let isNameChar := fun (c : Char) => c.isAlpha || c == '-'
  takeAndSkip
  match ← next? with
  | none => fail .unfinishedWordEdge start (← place)
  | some c =>
      if isNameChar c then
        let _ ← takeWhile isNameChar (← rounds)
        fail .unclosedWordEdge brace (← place)
      else set before

/-- The characters that letters after a backslash stand for. -/
def controlLetters : List (Char × Char) :=
  [('a', '\x07'), ('f', '\x0C'), ('t', '\t'), ('n', '\n'), ('r', '\r'), ('v', '\x0B')]

/-- Reads what begins with a backslash. -/
def readEscape : Reading Element := do
  let start ← place
  take 1
  match ← next? with
  | none => fail .unfinishedEscape start (← place)
  | some c =>
      if c.isDigit then fail .backreference start ((← place) + 1)
      else if c == 'x' then readNumbered start 2
      else if c == 'u' then readNumbered start 4
      else if c == 'U' then readNumbered start 8
      else if c.toLower == 'p' then readProperty start
      else
        take 1
        let span := Span.mk start (← place)
        if "dsw".contains c.toLower then return .namedClass span c.isUpper
        else if c == '<' || c == '>' || c == 'B' then return .place span true
        else if c.toNat < 0x80 && !c.isAlphanum then return .letter ⟨span, c, false⟩
        else if c == 'A' || c == 'z' then return .place span false
        else if c == 'b' then
          if (← next?) == some '{' then refuseEdgeName start
          return .place span true
        else
          match controlLetters.lookup c with
          | some value => return .letter ⟨span, value, false⟩
          | none => fail .unknownEscape start (← place)

/-- Reads an element outside square brackets that begins with the given character. -/
def readElement (c : Char) : Reading Element := do
  if c == '\\' then readEscape
  else
    let start ← place
    take 1
    let span := Span.mk start (start + 1)
    match c with
    | '.' => return .anyCharacter span
    | '^' | '$' => return .place span false
    | _ => return .letter ⟨span, c, false⟩

/-! ## Square brackets -/

/-- The names of classes of ASCII. -/
def asciiClassNames : List String :=
  ["alnum", "alpha", "ascii", "blank", "cntrl", "digit", "graph", "lower", "print", "punct",
    "space", "upper", "word", "xdigit"]

/-- Reads a class of ASCII, such as `[:alpha:]`, at the front of a text: gives whether
it is negated, and the rest. -/
def asciiClass? : Text → Option (Bool × Text)
  | '[' :: ':' :: text =>
      let (negated, name) := match text with
        | '^' :: name => (true, name)
        | _ => (false, text)
      match name.dropWhile (· != ':') with
      | ':' :: ']' :: rest =>
          if asciiClassNames.any fun known => known.toList == name.takeWhile (· != ':') then
            some (negated, rest)
          else none
      | _ => none
  | _ => none

/-- Square brackets that are not closed yet. -/
structure OpenBrackets where
  opening : Span
  negated : Bool
  /-- What stands before an operation. -/
  left : Option ClassSet := none
  /-- Where the items after the operation begin. -/
  start : Nat
  /-- The items, the last one first. -/
  items : List ClassItem := []

namespace OpenBrackets

/-- The items since the last operation. -/
def operand (brackets : OpenBrackets) : ClassSet :=
  let span := match brackets.items.getLast?, brackets.items.head? with
    | some first, some last => Span.mk first.span.start last.span.stop
    | _, _ => ⟨brackets.start, brackets.start⟩
  .union span brackets.items.reverse

/-- All that the brackets hold so far. -/
def content (brackets : OpenBrackets) : ClassSet :=
  match brackets.left with
  | none => brackets.operand
  | some left => .operation left brackets.operand

def add (brackets : OpenBrackets) (item : ClassItem) : OpenBrackets :=
  { brackets with items := item :: brackets.items }

end OpenBrackets

/-- Reads the minus signs that stand first in brackets, which began at a place. -/
def readMinusSigns (opening : Nat) : Nat → Reading (List ClassItem)
  | 0 => return []
  | count + 1 => do
      if (← next?) == some '-' then
        let start ← place
        takeAndSkip
        if ← atEnd then fail .unclosedClass opening opening
        return .letter ⟨⟨start, start + 1⟩, '-', false⟩ :: (← readMinusSigns opening count)
      else return []

/-- Opens brackets.  A closing bracket that stands first in them is a character like
others. -/
def openBrackets : Reading OpenBrackets := do
  let opening ← place
  let takeMore : Reading Unit := do
    takeAndSkip
    if ← atEnd then fail .unclosedClass opening (← place)
  takeMore
  let negated := (← next?) == some '^'
  if negated then takeMore
  let start ← place
  let mut items ← readMinusSigns opening (← rounds)
  if items.isEmpty && (← next?) == some ']' then
    items := [.letter ⟨⟨start, start + 1⟩, ']', false⟩]
    takeMore
  return { opening := ⟨opening, ← place⟩, negated, start, items := items.reverse }

/-- The character after the next one.  Where white space stands for nothing, that is the
next one beyond white space, and beyond one number sign. -/
def second? : Reading (Option Char) := do
  let reader ← get
  let after := reader.rest.drop 1
  if !reader.isLoose then return after.head?
  let rest := match Text.trimStart after with
    | '#' :: rest => Text.trimStart rest
    | rest => rest
  return rest.head?.or after.head?

/-- An element as an end of a range. -/
def rangeEnd : Element → Reading Letter
  | .letter value => return value
  | element => fail .classRangeEnd element.span.start element.span.stop

/-- An element as an item. -/
def itemOf : Element → Reading ClassItem
  | .letter value => return .letter value
  | .namedClass span negated => return .namedClass span negated
  | .property span => return .property span
  | element => fail .escapeInClass element.span.start element.span.stop

/-- Reads an element within square brackets. -/
def readClassElement : Reading Element := do
  match ← next? with
  | some '\\' => readEscape
  | next =>
      let start ← place
      take 1
      return .letter ⟨⟨start, start + 1⟩, next.getD '\\', false⟩

/-- Reads an item of brackets: a range, or an element. -/
def readItem (brackets : OpenBrackets) : Reading ClassItem := do
  let unclosed : Reading Unit := throw { fault := .unclosedClass, span := brackets.opening }
  let first ← readClassElement
  skipBlanks
  if ← atEnd then unclosed
  let after ← second?
  if (← next?) != some '-' || after == some ']' || after == some '-' then itemOf first
  else
    takeAndSkip
    if ← atEnd then unclosed
    let last ← readClassElement
    let span := Span.mk first.span.start last.span.stop
    let lower ← rangeEnd first
    let upper ← rangeEnd last
    if upper.value < lower.value then fail .classRangeOrder span.start span.stop
    return .range span lower upper

/-- Reads on in brackets and in those around them, up to the bracket that closes the
outermost. -/
def readBrackets : Nat → OpenBrackets → List OpenBrackets → Reading Expression
  | 0, brackets, _ => throw { fault := .unclosedClass, span := brackets.opening }
  | count + 1, brackets, outer => do
      skipBlanks
      let here ← place
      let operate : Reading Expression := do
        take 2
        readBrackets count
          { brackets with left := some brackets.content, start := ← place, items := [] } outer
      match (← get).rest with
      | [] => throw { fault := .unclosedClass, span := brackets.opening }
      | '[' :: rest =>
          match asciiClass? ('[' :: rest) with
          | some (negated, rest) =>
              modify fun reader => { reader with rest }
              readBrackets count (brackets.add (.asciiClass ⟨here, ← place⟩ negated)) outer
          | none =>
              readBrackets count (← openBrackets) (brackets :: outer)
      | ']' :: _ =>
          take 1
          let span := Span.mk brackets.opening.start (← place)
          match outer with
          | [] => return .brackets span brackets.negated brackets.content
          | parent :: outer =>
              readBrackets count
                (parent.add (.brackets span brackets.negated brackets.content)) outer
      | '&' :: '&' :: _ => operate
      | '-' :: '-' :: _ => operate
      | '~' :: '~' :: _ => operate
      | _ => readBrackets count (brackets.add (← readItem brackets)) outer

/-! ## Groups -/

/-- Reads flags up to a colon or a closing parenthesis. -/
def readFlags (flags : List (Char × Span)) : Nat → Reading (List (Char × Span))
  | 0 => return flags
  | count + 1 => do
      let here ← place
      let span := Span.mk here (here + 1)
      match ← next? with
      | none => failHere .unfinishedFlags
      | some c =>
          if c == ':' || c == ')' then
            match flags.getLast? with
            | some ('-', span) => throw { fault := .danglingNegation, span }
            | _ => return flags
          else if !"-imsUuRx".contains c then failAtNext .unknownFlag
          else
            match flags.lookup c with
            | some earlier =>
                let fault := if c == '-' then Fault.repeatedNegation else .duplicateFlag
                throw { fault, span, earlier := some earlier }
            | none =>
                take 1
                readFlags (flags ++ [(c, span)]) count

/-- Reads the name of a group, which began at a place, up to the bracket that ends it. -/
def readGroupName (start : Nat) (name : Text) : Nat → Reading Unit
  | 0 => failHere .unfinishedGroupName
  | count + 1 => do
      let here ← place
      match ← next? with
      | none => failHere .unfinishedGroupName
      | some '>' =>
          if name.isEmpty then fail .emptyGroupName start start
          let span := Span.mk start here
          match (← get).names.lookup name with
          | some earlier =>
              throw { fault := .duplicateGroupName, span, earlier := some earlier }
          | none =>
              take 1
              modify fun reader => { reader with names := (name, span) :: reader.names }
      | some c =>
          let isAllowed :=
            if name.isEmpty then c == '_' || Text.isLetter c
            else "_.[]".contains c || Text.isLetterOrNumber c
          if !isAllowed then failAtNext .invalidGroupName
          take 1
          readGroupName start (name ++ [c]) count

/-- What an opening parenthesis begins. -/
inductive Opening where
  | group (span : Span) (flags : Flags)
  /-- Flags for the rest of the group around them. -/
  | flags (span : Span) (flags : Flags)

/-- Reads an opening parenthesis and what belongs to it. -/
def readOpening : Reading Opening := do
  let start ← place
  let opening := Span.mk start (start + 1)
  takeAndSkip
  let inner ← place
  match (← get).rest with
  | '?' :: '!' :: _ => fail .lookAround start (inner + 2)
  | '?' :: '<' :: '!' :: _ => fail .lookAround start (inner + 3)
  | '?' :: 'P' :: '<' :: _ =>
      take 3
      readGroupName (inner + 3) [] (← rounds)
      return .group opening []
  | '?' :: '<' :: _ =>
      take 2
      readGroupName (inner + 2) [] (← rounds)
      return .group opening []
  | '?' :: _ =>
      take 1
      if ← atEnd then throw { fault := .unclosedGroup, span := opening }
      let flags := (← readFlags [] (← rounds)).map Prod.fst
      let isClosed := (← next?) == some ')'
      take 1
      if !isClosed then return .group opening flags
      if flags.isEmpty then fail .nothingToRepeat inner inner
      return .flags ⟨start, ← place⟩ flags
  | _ => return .group opening []

/-- A group that is not closed yet, or the whole expression. -/
structure OpenGroup where
  /-- The parenthesis. -/
  opening : Span := ⟨0, 0⟩
  flags : Flags := []
  /-- Whether white space stands for nothing outside the group. -/
  wasLoose : Bool := false
  start : Nat := 0
  /-- The branches that are finished, the last one first. -/
  branches : List Expression := []
  /-- Where the last branch begins. -/
  branchStart : Nat := start
  /-- The parts of the last branch, the last one first. -/
  parts : List Expression := []

namespace OpenGroup

/-- The last branch, if it ends at a place. -/
def branch (group : OpenGroup) (stop : Nat) : Expression :=
  .ofParts ⟨group.branchStart, stop⟩ group.parts.reverse

/-- All that the group holds, if it ends at a place. -/
def content (group : OpenGroup) (stop : Nat) : Expression :=
  if group.branches.isEmpty then group.branch stop
  else .choice ⟨group.start, stop⟩ (group.branch stop :: group.branches).reverse

def add (group : OpenGroup) (part : Expression) : OpenGroup :=
  { group with parts := part :: group.parts }

end OpenGroup

/-- Refuses a count, which is never finished. -/
def refuseCount {α : Type} : Reading α := do
  let start ← place
  takeAndSkip
  if ← atEnd then fail .unclosedCount start (← place)
  modify fun reader => { reader with rest := Text.trimStart reader.rest }
  let first ← place
  let digits ← takeWhile Char.isDigit (← rounds)
  let stop ← place
  let _ ← takeWhile Text.isBlank (← rounds)
  if ← atEnd then fail .unclosedCount start (← place)
  if digits.isEmpty then fail .noCount first stop
  if 0xFFFFFFFF < Text.decimalValue digits then fail .invalidNumber first stop
  fail .unclosedCount start (← place)

/-- Repeats the last part of a group by means of the next character. -/
def readRepetition (group : OpenGroup) : Reading OpenGroup := do
  match group.parts with
  | [] | .flags .. :: _ => failHere .nothingToRepeat
  | body :: parts =>
      if (← next?) == some '{' then refuseCount
      take 1
      if (← next?) == some '?' then take 1
      return { group with parts := .repetition ⟨body.span.start, ← place⟩ body :: parts }

/-- Reads on in a group and in those around it, up to the end. -/
def readParts : Nat → OpenGroup → List OpenGroup → Reading Expression
  | 0, group, _ => do return group.content (← place)
  | count + 1, group, outer => do
      skipBlanks
      let here ← place
      match ← next?, outer with
      | none, [] => return group.content here
      | none, _ :: _ => throw { fault := .unclosedGroup, span := group.opening }
      | some '(', outer =>
          let wasLoose := (← get).isLoose
          let loosened := fun (flags : Flags) => (flags.state? 'x').getD wasLoose
          match ← readOpening with
          | .flags span flags =>
              setLoose (loosened flags)
              readParts count (group.add (.flags span flags)) outer
          | .group opening flags =>
              setLoose (loosened flags)
              readParts count { opening, flags, wasLoose, start := ← place } (group :: outer)
      | some ')', [] => failAtNext .unopenedGroup
      | some ')', parent :: outer =>
          take 1
          setLoose group.wasLoose
          let span := Span.mk group.opening.start (← place)
          readParts count (parent.add (.group span group.flags (group.content here))) outer
      | some '|', outer =>
          take 1
          readParts count
            { group with
              branches := group.branch here :: group.branches
              branchStart := ← place
              parts := [] } outer
      | some '[', outer =>
          let part ← readBrackets (← rounds) (← openBrackets) []
          readParts count (group.add part) outer
      | some c, outer =>
          if "?*+\x7b".contains c then readParts count (← readRepetition group) outer
          else readParts count (group.add (.element (← readElement c))) outer

/-- Reads an expression. -/
def Expression.read (text : Text) : Except Mistake Expression :=
  (readParts (text.length + 1) {} []).run' { size := text.length, rest := text }

end SshConfig.CommandLine.FieldPattern
