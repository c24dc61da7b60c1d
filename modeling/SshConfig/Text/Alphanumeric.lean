import SshConfig.Text.AlphanumericTable
import SshConfig.Text.Ascii

namespace SshConfig.Text

/-! Letters and numbers in the sense of Unicode. -/

/-- Whether a character is a letter. -/
def isLetter (c : Char) : Bool :=
  c.isAlpha || alphabeticRanges.contains c

/-- Whether a character is a letter or a number. -/
def isLetterOrNumber (c : Char) : Bool :=
  c.isAlphanum || alphabeticRanges.contains c || numericRanges.contains c

end SshConfig.Text
