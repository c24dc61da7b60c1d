import SshConfig.Negation
import SshConfig.Text.Lowercase

namespace SshConfig

/-! The patterns of a `Host` line.

In a pattern `*` stands for any characters, none included, `?` stands for any one
character, and every other character stands for itself.
-/

/-- Tries a text and the end pieces of it, the longest first, until the attempt on one of
them is decided.  An attempt on the empty piece is the last. -/
def seek (attempt : Text → Option Bool) : Text → Bool
  | [] => (attempt []).getD false
  | c :: rest =>
      match attempt (c :: rest) with
      | some decided => decided
      | none => seek attempt rest

/-- Goes along a pattern and a text at once.  There is one place to start again from, behind
the star that was met last: where a character does not fit, which is told by `none`, that
star takes one character more.  An earlier star is not gone back to, so from a star on the
answer is final, and so it is when the text ends before the pattern. -/
def walk : Text → Text → Option Bool
  | '*' :: pattern, text => some (seek (walk pattern) text)
  | [], [] => some true
  | _ :: _, [] => some false
  | [], _ :: _ => none
  | '?' :: pattern, _ :: rest => walk pattern rest
  | symbol :: pattern, c :: rest => if c = symbol then walk pattern rest else none

/-- Whether the whole of `text` is what `pattern` stands for, character by character.  Before
the first star there is no place to start again from. -/
def fitsGlob (text pattern : Text) : Bool :=
  (walk pattern text).getD false

/-- Whether a host name fits a pattern when letter case is set aside. -/
def fitsPattern (host pattern : Text) : Bool :=
  fitsGlob (Text.lowercase host) (Text.lowercase pattern)

/-- One pattern of a `Host` line.  A negated one rules out the hosts that fit it. -/
structure HostPattern where
  pattern : Text
  negated : Bool
deriving DecidableEq, Repr

namespace HostPattern

/-- The pattern that an argument of a `Host` line spells. -/
def ofText (argument : Text) : HostPattern :=
  { pattern := (readNegation argument).2, negated := (readNegation argument).1 }

/-- The pattern as it is written on a `Host` line. -/
def text (pattern : HostPattern) : Text :=
  writeNegation pattern.negated pattern.pattern

/-- Whether a host name fits the pattern itself, negated or not. -/
def covers (pattern : HostPattern) (host : Text) : Bool :=
  fitsPattern host pattern.pattern

theorem text_ofText (argument : Text) : (ofText argument).text = argument :=
  writeNegation_readNegation argument

end HostPattern

/-- Goes on through the patterns of a `Host` line, where `fits` says whether one of those
before covered the host.  A negated pattern that covers it settles the matter, wherever it
stands. -/
def fitsPatternsFrom (host : Text) : Bool → List HostPattern → Bool
  | fits, [] => fits
  | fits, pattern :: rest =>
      if pattern.covers host then
        if pattern.negated then false else fitsPatternsFrom host true rest
      else fitsPatternsFrom host fits rest

/-- Whether a `Host` line applies to a host name: some pattern has to cover it, and no
negated one may. -/
def fitsPatterns (host : Text) (patterns : List HostPattern) : Bool :=
  fitsPatternsFrom host false patterns

end SshConfig
