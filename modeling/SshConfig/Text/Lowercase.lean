import SshConfig.Text.Basic
import SshConfig.Text.CasedTable
import SshConfig.Text.LowercaseTable

namespace SshConfig.Text

/-! Lowercase forms by the rules of Unicode, without those of any one language.

The form of a character depends on its surroundings in one case only: a capital sigma
becomes a final sigma at the end of a word and an ordinary one elsewhere.  A text may
grow, because the capital I with a dot above becomes two characters.
-/

/-- Whether a character has a case. -/
def isCased (c : Char) : Bool :=
  if c.toNat < 0x80 then c.isAlpha else casedRanges.contains c

/-- Whether a character is passed over when the neighbour of a sigma is sought. -/
def isCaseIgnorable (c : Char) : Bool :=
  if c.toNat < 0x80 then
    c == '\x27' || c == '.' || c == ':' || c == '^' || c == '\x60'
  else caseIgnorableRanges.contains c

/-- Whether the nearest character that is not passed over has a case. -/
def meetsCased (text : Text) : Bool :=
  match text.dropWhile isCaseIgnorable with
  | [] => false
  | c :: _ => isCased c

/-- The small letter of a character beyond ASCII, or the character itself. -/
def smallLetter (c : Char) : Char :=
  match letterRuns.find? (fun run => run.capital ≤ c.toNat && c.toNat ≤ run.last &&
      (c.toNat - run.capital) % run.step == 0) with
  | some run => Char.ofNat (run.small + (c.toNat - run.capital))
  | none => c

/-- The lowercase form of `c` between the reversed text `before` and the text
`after`. -/
def lowercaseBetween (before : Text) (c : Char) (after : Text) : Text :=
  if c.toNat < 0x80 then [c.toLower]
  else if c = 'Σ' then
    if meetsCased before && !meetsCased after then ['ς'] else ['σ']
  else if c = 'İ' then ['i', '\u0307']
  else [smallLetter c]

/-- The lowercase form of what follows the reversed text `before`. -/
def lowercaseAfter (before : Text) : Text → Text
  | [] => []
  | c :: rest => lowercaseBetween before c rest ++ lowercaseAfter (c :: before) rest

/-- The lowercase form of a text. -/
def lowercase (text : Text) : Text :=
  lowercaseAfter [] text

/-- Whether two names are equal when letter case is set aside. -/
def sameName (left right : Text) : Bool :=
  lowercase left == lowercase right

end SshConfig.Text
