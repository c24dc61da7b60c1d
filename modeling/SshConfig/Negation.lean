import SshConfig.Text.Basic

namespace SshConfig

/-! An exclamation mark in front of a pattern or of a condition's name negates it. -/

/-- Reads one exclamation mark off the front of a text, if there is one. -/
def readNegation : Text → Bool × Text
  | '!' :: rest => (true, rest)
  | text => (false, text)

/-- Writes a text with an exclamation mark in front if it is negated. -/
def writeNegation (negated : Bool) (text : Text) : Text :=
  if negated then '!' :: text else text

/-- Reading undoes writing, except that a text with a mark of its own reads as
negated. -/
theorem readNegation_writeNegation {negated : Bool} {text : Text}
    (unmarked : negated = false → text.head? ≠ some '!') :
    readNegation (writeNegation negated text) = (negated, text) := by
  cases negated with
  | true => rfl
  | false =>
      have first := unmarked rfl
      unfold writeNegation readNegation
      split
      · simp_all
      · rfl

/-- Writing undoes reading. -/
theorem writeNegation_readNegation (text : Text) :
    writeNegation (readNegation text).1 (readNegation text).2 = text := by
  unfold readNegation
  split <;> rfl

end SshConfig
