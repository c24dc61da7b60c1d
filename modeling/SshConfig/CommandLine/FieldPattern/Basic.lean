import SshConfig.Text.Basic

namespace SshConfig.CommandLine.FieldPattern

/-! Regular expressions that the value of a field is compared with.

Such an expression stands between braces, in a list whose parts are set off by commas, and
after an equals sign.  It therefore holds no closing brace, no comma and no equals sign, and
nothing that is written with these can be complete in it.
-/

/-- A stretch of an expression: the place of its first character and the place after its
last one, counted in characters. -/
structure Span where
  start : Nat
  stop : Nat
deriving DecidableEq, Repr

/-- What can be wrong with an expression. -/
inductive Fault where
  | escapeInClass
  | classRangeOrder
  | classRangeEnd
  | unclosedClass
  | invalidNumber
  | notHexadecimal
  | noCharacter
  | unfinishedEscape
  | unknownEscape
  | danglingNegation
  | duplicateFlag
  | repeatedNegation
  | unfinishedFlags
  | unknownFlag
  | duplicateGroupName
  | emptyGroupName
  | invalidGroupName
  | unfinishedGroupName
  | unclosedGroup
  | unopenedGroup
  | nestedTooDeeply
  | noCount
  | unclosedCount
  | nothingToRepeat
  | unclosedWordEdge
  | unfinishedWordEdge
  | invalidProperty
  | backreference
  | lookAround
  /-- A character beyond ASCII stands where bytes are meant. -/
  | characterAmongBytes
  /-- Bytes are meant that are part of no character. -/
  | partOfCharacter
  | unknownProperty
  /-- A class of characters, such as the letters, is not known beyond ASCII. -/
  | unknownClass
  /-- The case of letters is not known beyond ASCII. -/
  | unknownCase
deriving DecidableEq, Repr

/-- How many groups, classes, repetitions, sequences and choices may be nested. -/
def nestingLimit : Nat := 250

def Fault.message : Fault → String
  | .escapeInClass => "invalid escape sequence found in character class"
  | .classRangeOrder => "invalid character class range, the start must be <= the end"
  | .classRangeEnd => "invalid range boundary, must be a literal"
  | .unclosedClass => "unclosed character class"
  | .invalidNumber => "decimal literal invalid"
  | .notHexadecimal => "invalid hexadecimal digit"
  | .noCharacter => "hexadecimal literal is not a Unicode scalar value"
  | .unfinishedEscape => "incomplete escape sequence, reached end of pattern prematurely"
  | .unknownEscape => "unrecognized escape sequence"
  | .danglingNegation => "dangling flag negation operator"
  | .duplicateFlag => "duplicate flag"
  | .repeatedNegation => "flag negation operator repeated"
  | .unfinishedFlags => "expected flag but got end of regex"
  | .unknownFlag => "unrecognized flag"
  | .duplicateGroupName => "duplicate capture group name"
  | .emptyGroupName => "empty capture group name"
  | .invalidGroupName => "invalid capture group character"
  | .unfinishedGroupName => "unclosed capture group name"
  | .unclosedGroup => "unclosed group"
  | .unopenedGroup => "unopened group"
  | .nestedTooDeeply =>
      "exceed the maximum number of nested parentheses/brackets (" ++
        toString nestingLimit ++ ")"
  | .noCount => "repetition quantifier expects a valid decimal"
  | .unclosedCount => "unclosed counted repetition"
  | .nothingToRepeat => "repetition operator missing expression"
  | .unclosedWordEdge =>
      "special word boundary assertion is either unclosed or contains an invalid character"
  | .unfinishedWordEdge =>
      "found either the beginning of a special word boundary or a bounded repetition " ++
        "on a \\b with an opening brace, but no closing brace"
  | .invalidProperty => "invalid Unicode character class"
  | .backreference => "backreferences are not supported"
  | .lookAround => "look-around, including look-ahead and look-behind, is not supported"
  | .characterAmongBytes => "Unicode not allowed here"
  | .partOfCharacter => "pattern can match invalid UTF-8"
  | .unknownProperty => "Unicode property not found"
  | .unknownClass =>
      "Unicode-aware Perl class not found (make sure the unicode-perl feature is enabled)"
  | .unknownCase =>
      "Unicode-aware case insensitivity matching is not available " ++
        "(make sure the unicode-case feature is enabled)"

/-- A fault at its place. -/
structure Mistake where
  fault : Fault
  span : Span
  /-- What the place repeats, if the fault is a repetition. -/
  earlier : Option Span := none
deriving DecidableEq, Repr

/-- A character of an expression that stands for a character. -/
structure Letter where
  span : Span
  value : Char
  /-- Whether it is given by a number of two digits, which can mean a byte. -/
  isByte : Bool := false
deriving DecidableEq, Repr

/-- An element of an expression that has no parts. -/
inductive Element where
  | letter (letter : Letter)
  | anyCharacter (span : Span)
  /-- A place between characters. -/
  | place (span : Span) (isWordEdge : Bool)
  /-- A class of characters with a letter for its name. -/
  | namedClass (span : Span) (negated : Bool)
  /-- The characters with a property. -/
  | property (span : Span)
deriving DecidableEq, Repr

def Element.span : Element → Span
  | .letter value => value.span
  | .anyCharacter span | .place span _ | .namedClass span _ | .property span => span

mutual

/-- What stands in square brackets. -/
inductive ClassItem where
  | letter (letter : Letter)
  | range (span : Span) (first last : Letter)
  /-- A class of characters of ASCII with a name between colons. -/
  | asciiClass (span : Span) (negated : Bool)
  | namedClass (span : Span) (negated : Bool)
  | property (span : Span)
  | brackets (span : Span) (negated : Bool) (content : ClassSet)

/-- A set of characters that brackets hold. -/
inductive ClassSet where
  | union (span : Span) (items : List ClassItem)
  /-- An intersection or a difference of either kind. -/
  | operation (left right : ClassSet)

end

def ClassItem.span : ClassItem → Span
  | .letter value => value.span
  | .range span _ _ | .asciiClass span _ | .namedClass span _ | .property span
  | .brackets span _ _ => span

def ClassSet.span : ClassSet → Span
  | .union span _ => span
  | .operation left right => ⟨left.span.start, right.span.stop⟩

/-- Letters that change how what follows is read, with a minus sign before those that are
turned off. -/
abbrev Flags := List Char

/-- Whether flags turn the one with the given letter on or off. -/
def Flags.state? (flags : Flags) (flag : Char) : Option Bool :=
  if flags.contains flag then some !(flags.takeWhile (· != flag)).contains '-' else none

inductive Expression where
  | element (element : Element)
  | brackets (span : Span) (negated : Bool) (content : ClassSet)
  /-- Flags for the rest of the group. -/
  | flags (span : Span) (flags : Flags)
  | repetition (span : Span) (body : Expression)
  | group (span : Span) (flags : Flags) (body : Expression)
  | choice (span : Span) (branches : List Expression)
  | sequence (span : Span) (parts : List Expression)

def Expression.span : Expression → Span
  | .element value => value.span
  | .brackets span _ _ | .flags span _ | .repetition span _ | .group span _ _
  | .choice span _ | .sequence span _ => span

/-- Parts that follow one another.  A single part is no sequence. -/
def Expression.ofParts (span : Span) : List Expression → Expression
  | [part] => part
  | parts => .sequence span parts

end SshConfig.CommandLine.FieldPattern
