import SshConfig.Text.Basic
import SshConfig.Text.EmojiTable
import SshConfig.Text.WidthTable

namespace SshConfig.Text

/-! The number of terminal columns that a text takes.

A character has a width of its own, but some characters are drawn as one with those
after them: the parts of an emoji, and letters of several scripts.  A text is therefore
measured from its end, and what was read last tells how wide the character before it is.
-/

/-- Joins two characters into one. -/
def joiner : Char := '\u200D'

/-- Asks for the character before it to be drawn as an emoji. -/
def emojiSelector : Char := '\uFE0F'

/-- Asks for the character before it to be drawn as text. -/
def textSelector : Char := '\uFE0E'

/-- Asks for the quotation mark before it to be drawn as wide as an ideograph. -/
def wideSelector : Char := '\uFE01'

/-- Whether a character gives an emoji before it a skin tone. -/
def isSkinTone (c : Char) : Bool :=
  0x1F3FB ≤ c.toNat && c.toNat ≤ 0x1F3FF

/-- Whether a character is one of the letters that make flags in pairs. -/
def isFlagLetter (c : Char) : Bool :=
  0x1F1E6 ≤ c.toNat && c.toNat ≤ 0x1F1FF

/-- Whether a character is a quotation mark that can be drawn wide. -/
def isWidenable (c : Char) : Bool :=
  c == '‘' || c == '’' || c == '“' || c == '”'

/-- Letters and signs that are drawn as one with a letter before them. -/
inductive ScriptLetter where
  | lamed
  | khmer
  | ya
  /-- The letter ya with a joiner and a vowel sign before it. -/
  | signedYa
  | tifinagh
  /-- A letter of Tifinagh with a joining sign of that script before it. -/
  | joinedTifinagh
  | tone
  | orkhonI
deriving DecidableEq, Repr

/-- The letters that a tag spells from its end, as far as they can be the code of a
region: letters alone, or letters and then digits. -/
inductive TagCode where
  | letters (count : Nat)
  | digits (count : Nat)
deriving DecidableEq, Repr

/-- What was read last, as far as it bears on the character before it. -/
inductive Follower where
  | nothing
  | skinTone
  | flagLetter
  /-- Two or more letters of flags. -/
  | flagLetters
  | emoji
  /-- A joiner before an emoji. -/
  | joinedEmoji
  /-- A keycap that is joined to an emoji. -/
  | joinedKeycap
  /-- Letters of flags, the last of which is joined to an emoji. -/
  | joinedFlagLetter
  | joinedFlag
  | brokenFlag
  /-- The end of a tag that is joined to an emoji. -/
  | joinedTag (code : TagCode)
  /-- Vowels of Kirat Rai that can be the second part of another. -/
  | vowelE
  | vowelAi
  | alef
  /-- A letter, and whether a joiner stands before it. -/
  | letter (sign : ScriptLetter) (joined : Bool)
deriving DecidableEq, Repr

/-- The selectors that still look for the character that they are meant for. -/
structure Selectors where
  emoji : Bool := false
  text : Bool := false
  wide : Bool := false
deriving DecidableEq, Repr

/-- What stands after a place in a text. -/
structure Context where
  follower : Follower := .nothing
  selectors : Selectors := {}
deriving DecidableEq, Repr

/-- The columns that a character takes on its own, and what it is to the one before it. -/
def alone (c : Char) : Int × Context :=
  let n := c.toNat
  if c = emojiSelector then (0, { selectors := { emoji := true } })
  else if c = textSelector then (0, { selectors := { text := true } })
  else if c = wideSelector then (0, { selectors := { wide := true } })
  else if zeroWidthRanges.contains c then (0, {})
  else if isSkinTone c then (2, { follower := .skinTone })
  else if pictographRanges.contains c then (2, { follower := .emoji })
  else if wideRanges.contains c then (2, {})
  else if n = 0x17D8 then (3, {})
  else (1, { follower :=
    if isFlagLetter c then .flagLetter
    else if n = 0x05DC then .letter .lamed false
    else if isAlef n then .alef
    else if isKhmer n then .letter .khmer true
    else if n = 0x1A10 then .letter .ya false
    else if isTifinagh n then .letter .tifinagh false
    else if n = 0xA4FC || n = 0xA4FD then .letter .tone true
    else if n = 0x10C03 then .letter .orkhonI false
    else if n = 0x16D67 then .vowelE
    else if n = 0x16D68 then .vowelAi
    else .nothing })
where
  /-- The forms of the letter alef. -/
  isAlef (n : Nat) : Bool :=
    n == 0x622 || n == 0x623 || n == 0x625 || n == 0x627 || (0x671 ≤ n && n ≤ 0x673) ||
      n == 0x675 || n == 0x773 || n == 0x774 || (0x870 ≤ n && n ≤ 0x882)
  /-- The letters that can be written below another. -/
  isKhmer (n : Nat) : Bool :=
    (0x1780 ≤ n && n ≤ 0x1782) || (0x1784 ≤ n && n ≤ 0x1787) ||
      (0x1789 ≤ n && n ≤ 0x178C) || (0x178E ≤ n && n ≤ 0x1793) ||
      (0x1795 ≤ n && n ≤ 0x1798) || (0x179B ≤ n && n ≤ 0x179D) || n == 0x17A0 ||
      n == 0x17A2 || n == 0x17A7 || n == 0x17AB || n == 0x17AC || n == 0x17AF
  /-- The consonants of Tifinagh. -/
  isTifinagh (n : Nat) : Bool :=
    (0x2D31 ≤ n && n ≤ 0x2D65) || n == 0x2D6F

namespace TagCode

/-- The code with one more character at its front.  A region is spelled with letters, or
with three digits and up to four letters after them. -/
def extend (code : TagCode) (n : Nat) : Option TagCode :=
  let isLetter := 0xE0061 ≤ n && n ≤ 0xE007A
  let isDigit := 0xE0030 ≤ n && n ≤ 0xE0039
  match code with
  | .letters count =>
      if isLetter && count < 6 then some (.letters (count + 1))
      else if isDigit && count ≤ 4 then some (.digits 1)
      else none
  | .digits count => if isDigit && count < 3 then some (.digits (count + 1)) else none

/-- Whether the code is long enough for a region. -/
def isComplete : TagCode → Bool
  | .letters count => 3 ≤ count
  | .digits count => count == 3

end TagCode

namespace Follower

/-- Whether what follows goes on waiting for its letter across selectors. -/
def isScript : Follower → Bool
  | .alef => true
  | .letter _ _ => true
  | _ => false

/-- The columns that a character adds before what follows when the two are drawn as one,
and what they are to the character before them. -/
def absorb (follower : Follower) (c : Char) : Option (Int × Follower) :=
  let n := c.toNat
  match follower with
  | .nothing | .joinedKeycap => none
  | .skinTone =>
      if skinToneBaseRanges.contains c then some (0, .emoji)
      else if c = joiner then some (0, .joinedEmoji)
      else none
  | .flagLetter => if isFlagLetter c then some (1, .flagLetters) else none
  | .flagLetters =>
      if isFlagLetter c then some (1, .flagLetters)
      else if c = joiner then some (0, .joinedEmoji)
      else none
  | .emoji => if c = joiner then some (0, .joinedEmoji) else none
  | .joinedEmoji =>
      if n = 0x20E3 then some (0, .joinedKeycap)
      else if isFlagLetter c then some (1, .joinedFlagLetter)
      else if isSkinTone c then some (0, .skinTone)
      else if n = 0xE007F then some (0, .joinedTag (.letters 0))
      else if pictographRanges.contains c then some (0, .emoji)
      else none
  | .joinedFlagLetter | .brokenFlag =>
      if isFlagLetter c then some (-1, .joinedFlag) else none
  | .joinedFlag =>
      if isFlagLetter c then some (3, .brokenFlag)
      else if c = joiner then some (0, .joinedEmoji)
      else none
  | .joinedTag code =>
      if n = 0x1F3F4 then if code.isComplete then some (0, .emoji) else none
      else (code.extend n).map fun longer => (0, .joinedTag longer)
  | .vowelE =>
      if n = 0x16D63 || n = 0x16D69 then some (0, .nothing)
      else if n = 0x16D67 then some (0, .vowelAi)
      else if n = 0x16D68 then some (1, .vowelE)
      else none
  | .vowelAi => if n = 0x16D63 then some (0, .nothing) else none
  | .alef =>
      if n = 0x644 || (0x6B5 ≤ n && n ≤ 0x6B8) || n = 0x76A || n = 0x8A6 || n = 0x8C7 then
        some (0, .nothing)
      else if zeroWidthRanges.contains c && !separatingRanges.contains c then some (0, .alef)
      else none
  | .letter sign joined =>
      match sign, joined with
      | .lamed, true => if n = 0x5D0 then some (0, .nothing) else none
      | .khmer, _ => if n = 0x17D2 then some (-1, .nothing) else none
      | .ya, true => if n = 0x1A17 then some (0, .letter .signedYa true) else none
      | .signedYa, _ => if n = 0x1A15 then some (0, .nothing) else none
      | .tifinagh, _ =>
          if n = 0x2D7F then some (1, .letter .joinedTifinagh true)
          else if joined && alone.isTifinagh n then some (0, .nothing)
          else none
      | .joinedTifinagh, _ => if alone.isTifinagh n then some (-1, .nothing) else none
      | .tone, _ => if 0xA4F8 ≤ n && n ≤ 0xA4FB then some (0, .nothing) else none
      | .orkhonI, true => if n = 0x10C32 then some (0, .nothing) else none
      | _, false => none

end Follower

namespace Context

/-- The context behind a selector.  Only letters of a script, and an emoji that is
joined, go on waiting for what comes before the selector. -/
def select (context : Context) (c : Char) : Context :=
  let chosen := (alone c).2.selectors
  if context.follower.isScript ||
      chosen.emoji && (context.follower == .joinedEmoji || context.follower == .joinedKeycap)
  then
    { context with selectors :=
      { emoji := context.selectors.emoji || chosen.emoji
        text := context.selectors.text || chosen.text
        wide := context.selectors.wide || chosen.wide } }
  else { selectors := chosen }

/-- The context when a selector has not found its character. -/
def give (context : Context) (left : Selectors) : Context :=
  if context.follower.isScript then { context with selectors := left } else {}

/-- The columns that a character adds in a context where no selector is meant for it. -/
def beforeUnselected (context : Context) (c : Char) : Int × Context :=
  match context.follower with
  | .letter sign _ =>
      if c = joiner then (0, { context with follower := .letter sign true })
      else if isPassedOver c.toNat then (0, context)
      else settled context c
  | _ => settled context c
where
  /-- Characters that do not come between letters that are drawn as one. -/
  isPassedOver (n : Nat) : Bool :=
    n == 0x34F || n == 0x17B4 || n == 0x17B5 || (0x180B ≤ n && n ≤ 0x180D) ||
      n == 0x180F || n == 0xFE00 || (0xFE02 ≤ n && n ≤ 0xFE0D) ||
      (0xE0100 ≤ n && n ≤ 0xE01EF)
  /-- A character is drawn together with what follows, or else on its own. -/
  settled (context : Context) (c : Char) : Int × Context :=
    if context.selectors = {} then
      match context.follower.absorb c with
      | some (columns, follower) => (columns, { follower })
      | none => alone c
    else alone c

/-- The columns that a character adds that is not to be drawn as an emoji. -/
def beforeText (context : Context) (c : Char) : Int × Context :=
  if c = emojiSelector || c = textSelector || c = wideSelector then (0, context.select c)
  else if context.selectors.text then
    if textualRanges.contains c then (1, {})
    else (context.give { context.selectors with text := false }).beforeUnselected c
  else if context.selectors.wide then
    if isWidenable c then (2, {})
    else (context.give { context.selectors with wide := false }).beforeUnselected c
  else context.beforeUnselected c

/-- The columns that a character adds in a context, and the context before it. -/
def before (context : Context) (c : Char) : Int × Context :=
  if context.selectors.emoji && selectableRanges.contains c then
    let isJoined := context.follower == .joinedEmoji || context.follower == .joinedKeycap
    (if isJoined then 0 else 2, { follower := .emoji })
  else if c.toNat ≤ 0xA0 then (1, {})
  else if context.selectors.emoji then
    (context.give { context.selectors with emoji := false }).beforeText c
  else context.beforeText c

end Context

/-- The number of columns that a text without line feeds takes. -/
def width (text : Text) : Nat :=
  let measured : Int × Context := text.foldr
    (fun c rest =>
      let own := rest.2.before c
      (own.1 + rest.1, own.2))
    (0, {})
  measured.1.toNat

end SshConfig.Text
