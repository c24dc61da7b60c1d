import SshConfig.Text.Basic

namespace SshConfig.Text

/-! Names and numbers that are written with ASCII letters and digits.

`Char.toLower` changes the twenty-six letters `A` to `Z` and nothing else, which is
the notion of letter case that the names of keywords and conditions go by.
-/

/-- The text with the letters `A` to `Z` made small. -/
def lowerAscii (text : Text) : Text :=
  text.map Char.toLower

/-- Whether two texts differ at most in the case of ASCII letters. -/
def sameLetters (left right : Text) : Bool :=
  lowerAscii left == lowerAscii right

/-- The number that decimal digits stand for. -/
def decimalValue (digits : Text) : Nat :=
  digits.foldl (fun value digit => value * 10 + (digit.toNat - '0'.toNat)) 0

/-- Reads a number: digits with at most one plus sign before them. -/
def number? (text : Text) : Option Nat :=
  let digits := match text with
    | '+' :: rest => rest
    | _ => text
  if digits.isEmpty || !digits.all Char.isDigit then none else some (decimalValue digits)

/-- The characters a keyword is made of. -/
def isWordChar (c : Char) : Bool :=
  c.isAlphanum || c == '_'

end SshConfig.Text
