import SshConfig.Text.Basic

namespace SshConfig.Text

/-! White space in the sense of the Unicode property `White_Space`. -/

/-- The characters that separate words. -/
def isBlank (c : Char) : Bool :=
  let n := c.toNat
  (0x09 ≤ n && n ≤ 0x0D) || n == 0x20 || n == 0x85 || n == 0xA0 || n == 0x1680 ||
    (0x2000 ≤ n && n ≤ 0x200A) || n == 0x2028 || n == 0x2029 || n == 0x202F ||
    n == 0x205F || n == 0x3000

/-- The text without the white space that it begins with. -/
def trimStart (text : Text) : Text :=
  text.dropWhile isBlank

/-- The text without the white space that it ends with. -/
def trimEnd (text : Text) : Text :=
  (text.reverse.dropWhile isBlank).reverse

/-- The text without white space at either end. -/
def trim (text : Text) : Text :=
  trimEnd (trimStart text)

end SshConfig.Text
