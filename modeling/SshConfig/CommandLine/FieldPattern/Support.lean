import SshConfig.CommandLine.FieldPattern.Reader

namespace SshConfig.CommandLine.FieldPattern

/-! What matching supports of the expressions that can be read.

Nesting is limited.  Classes, properties and the case of letters are known for ASCII only,
so an expression can use them only where its flags say that it is about bytes; there, in
turn, it must match nothing but whole characters.  Edges of words are found only where the
expression is about bytes.
-/

/-! ## Nesting -/

/-- Goes one level deeper: gives the place of what is too deep, if it is this or is found
within. -/
def deeper (depth : Nat) (span : Span) (within : Nat → Option Span) : Option Span :=
  if nestingLimit ≤ depth then some span else within (depth + 1)

mutual

def ClassItem.tooDeep? (depth : Nat) : ClassItem → Option Span
  | .brackets span _ content => deeper depth span fun depth => content.tooDeep? depth
  | .letter _ | .range .. | .asciiClass .. | .namedClass .. | .property _ => none

def ClassSet.tooDeep? (depth : Nat) : ClassSet → Option Span
  | .union span items =>
      if items.length ≤ 1 then itemsTooDeep? depth items
      else deeper depth span fun depth => itemsTooDeep? depth items
  | .operation left right =>
      deeper depth (ClassSet.operation left right).span fun depth =>
        (left.tooDeep? depth).or (right.tooDeep? depth)

def itemsTooDeep? (depth : Nat) : List ClassItem → Option Span
  | [] => none
  | item :: items => (item.tooDeep? depth).or (itemsTooDeep? depth items)

end

mutual

/-- The place of the first part that is nested too deeply, if there is one. -/
def Expression.tooDeep? (depth : Nat) : Expression → Option Span
  | .element _ | .flags .. | .sequence _ [] => none
  | .brackets span _ content => deeper depth span fun depth => content.tooDeep? depth
  | .repetition span body | .group span _ body =>
      deeper depth span fun depth => body.tooDeep? depth
  | .choice span parts | .sequence span parts =>
      deeper depth span fun depth => partsTooDeep? depth parts

def partsTooDeep? (depth : Nat) : List Expression → Option Span
  | [] => none
  | part :: parts => (part.tooDeep? depth).or (partsTooDeep? depth parts)

end

/-! ## Characters and bytes -/

/-- What holds where a part of an expression stands. -/
structure Mode where
  ignoresCase : Bool := false
  /-- Whether the part is about bytes. -/
  isBytewise : Bool := false
  /-- Whether an edge of a word was used so far that is none between bytes. -/
  usesWordEdge : Bool := false

namespace Mode

/-- The mode that flags change a mode to. -/
def change (mode : Mode) (flags : Flags) : Mode :=
  { mode with
    ignoresCase := (flags.state? 'i').getD mode.ignoresCase
    isBytewise := ((flags.state? 'u').map not).getD mode.isBytewise }

/-- Whether case matters in a way that is not known. -/
def needsCase (mode : Mode) : Bool :=
  mode.ignoresCase && !mode.isBytewise

end Mode

/-- Fails with a fault at a place if there is reason to. -/
def refuseIf (reason : Bool) (fault : Fault) (span : Span) : Except Mistake Unit :=
  if reason then .error { fault, span } else .ok ()

/-- Refuses a byte that is part of a longer character. -/
def Letter.checkByte (mode : Mode) (letter : Letter) : Except Mistake Unit :=
  refuseIf (mode.isBytewise && letter.isByte && 0x7F < letter.value.toNat) .partOfCharacter
    letter.span

/-- Checks a letter in brackets. -/
def Letter.checkItem (mode : Mode) (letter : Letter) : Except Mistake Unit := do
  letter.checkByte mode
  refuseIf (mode.isBytewise && 0x7F < letter.value.toNat) .characterAmongBytes letter.span

/-- Checks a class with a name. -/
def checkNamedClass (mode : Mode) (span : Span) (negated : Bool) : Except Mistake Unit := do
  refuseIf (!mode.isBytewise) .unknownClass span
  refuseIf negated .partOfCharacter span

/-- Refuses a property. -/
def checkProperty (mode : Mode) (span : Span) : Except Mistake Unit :=
  .error { fault := if mode.isBytewise then .characterAmongBytes else .unknownProperty, span }

/-- Checks brackets as a whole, given whether they hold characters that can have a
case. -/
def checkBrackets (mode : Mode) (span : Span) (negated hasLetters : Bool) :
    Except Mistake Unit := do
  refuseIf (mode.needsCase && hasLetters) .unknownCase span
  refuseIf (mode.isBytewise && negated) .partOfCharacter span

mutual

/-- Checks an item: gives whether it holds characters that can have a case. -/
def ClassItem.check (mode : Mode) : ClassItem → Except Mistake Bool
  | .letter value => do
      value.checkItem mode
      return true
  | .range _ first last => do
      first.checkItem mode
      last.checkItem mode
      return true
  | .asciiClass span negated => do
      checkBrackets mode span negated true
      return true
  | .namedClass span negated => do
      checkNamedClass mode span negated
      return true
  | .property span => do
      checkProperty mode span
      return true
  | .brackets span negated content => do
      checkBrackets mode span negated (← content.check mode)
      return false

/-- Checks a set: gives whether it holds characters that can have a case. -/
def ClassSet.check (mode : Mode) : ClassSet → Except Mistake Bool
  | .union _ items => checkItems mode items
  | .operation left right => do
      let first ← left.check mode
      let second ← right.check mode
      refuseIf (mode.needsCase && second) .unknownCase right.span
      refuseIf (mode.needsCase && first) .unknownCase left.span
      return first || second

def checkItems (mode : Mode) : List ClassItem → Except Mistake Bool
  | [] => return false
  | item :: items => do
      let first ← item.check mode
      return (← checkItems mode items) || first

end

/-- Checks an element: gives the mode after it. -/
def Element.check (mode : Mode) : Element → Except Mistake Mode
  | .letter value => do
      value.checkByte mode
      refuseIf mode.needsCase .unknownCase value.span
      return mode
  | .anyCharacter span => do
      refuseIf mode.isBytewise .partOfCharacter span
      return mode
  | .place _ isWordEdge =>
      return { mode with
        usesWordEdge := mode.usesWordEdge || isWordEdge && !mode.isBytewise }
  | .namedClass span negated => do
      checkNamedClass mode span negated
      return mode
  | .property span => do
      checkProperty mode span
      return mode

mutual

/-- Checks an expression: gives the mode after it. -/
def Expression.check (mode : Mode) : Expression → Except Mistake Mode
  | .element value => value.check mode
  | .brackets span negated content => do
      checkBrackets mode span negated (← content.check mode)
      return mode
  | .flags _ flags => return mode.change flags
  | .repetition _ body => body.check mode
  | .group _ flags body => do
      let inner ← body.check (mode.change flags)
      return { mode with usesWordEdge := inner.usesWordEdge }
  | .choice _ parts | .sequence _ parts => checkParts mode parts

def checkParts (mode : Mode) : List Expression → Except Mistake Mode
  | [] => return mode
  | part :: parts => do checkParts (← part.check mode) parts

end

/-- Why an expression is not used. -/
inductive Problem where
  | mistake (mistake : Mistake)
  | wordEdge
deriving DecidableEq, Repr

/-- What is wrong with an expression, if anything. -/
def problem? (text : Text) : Option Problem :=
  match Expression.read text with
  | .error mistake => some (.mistake mistake)
  | .ok expression =>
      match expression.tooDeep? 0 with
      | some span => some (.mistake { fault := .nestedTooDeeply, span })
      | none =>
          match expression.check {} with
          | .error mistake => some (.mistake mistake)
          | .ok mode => if mode.usesWordEdge then some .wordEdge else none

end SshConfig.CommandLine.FieldPattern
