import SshConfig.HostPattern
import Mathlib.Data.List.Forall2
import Mathlib.Data.List.Infix

namespace SshConfig

/-! What patterns with `*` and `?` stand for.

A text is what a pattern stands for if it can be cut into consecutive pieces, one for
each character of the pattern, each of a form that the character allows.  The matcher goes
back to the last star only.  It loses nothing by that: what an earlier star could still take
is at the beginning of what the last one takes, and a text that is too short for the rest of
the pattern does not get longer when more of it is taken.
-/

/-- Whether one character of a pattern stands for a piece of text. -/
def StandsFor (symbol : Char) (piece : Text) : Prop :=
  if symbol = '*' then True
  else if symbol = '?' then piece.length = 1
  else piece = [symbol]

/-- Whether a pattern stands for the whole of a text. -/
def Glob (pattern text : Text) : Prop :=
  ∃ pieces, List.Forall₂ StandsFor pattern pieces ∧ pieces.flatten = text

theorem glob_nil {text : Text} : Glob [] text ↔ text = [] := by
  simp [Glob, eq_comm]

theorem glob_cons {symbol : Char} {pattern text : Text} :
    Glob (symbol :: pattern) text ↔
      ∃ piece rest, StandsFor symbol piece ∧ Glob pattern rest ∧ text = piece ++ rest := by
  constructor
  · rintro ⟨pieces, fits, rfl⟩
    obtain ⟨piece, others, first, tail, rfl⟩ := List.forall₂_cons_left_iff.mp fits
    exact ⟨piece, others.flatten, first, ⟨others, tail, rfl⟩, rfl⟩
  · rintro ⟨piece, _, first, ⟨others, tail, rfl⟩, rfl⟩
    exact ⟨piece :: others, .cons first tail, rfl⟩

theorem glob_star {pattern text : Text} :
    Glob ('*' :: pattern) text ↔ ∃ suffix, suffix <:+ text ∧ Glob pattern suffix := by
  rw [glob_cons]
  constructor
  · rintro ⟨piece, rest, -, fits, rfl⟩
    exact ⟨rest, List.suffix_append piece rest, fits⟩
  · rintro ⟨suffix, ⟨piece, rfl⟩, fits⟩
    exact ⟨piece, suffix, by simp [StandsFor], fits, rfl⟩

theorem not_glob_cons_nil {symbol : Char} {pattern : Text} (noStar : symbol ≠ '*') :
    ¬ Glob (symbol :: pattern) [] := by
  rw [glob_cons]
  rintro ⟨piece, rest, first, -, empty⟩
  obtain ⟨rfl, rfl⟩ := List.nil_eq_append_iff.mp empty
  simp [StandsFor, noStar] at first

theorem glob_any_cons {pattern rest : Text} {c : Char} :
    Glob ('?' :: pattern) (c :: rest) ↔ Glob pattern rest := by
  rw [glob_cons]
  constructor
  · rintro ⟨piece, later, first, fits, same⟩
    obtain ⟨d, rfl⟩ : ∃ d, piece = [d] := by
      simpa [StandsFor, List.length_eq_one_iff] using first
    obtain ⟨-, rfl⟩ := List.cons.inj same
    exact fits
  · intro fits
    exact ⟨[c], rest, by simp [StandsFor], fits, rfl⟩

theorem glob_literal_cons {symbol c : Char} {pattern rest : Text} (noStar : symbol ≠ '*')
    (noAny : symbol ≠ '?') :
    Glob (symbol :: pattern) (c :: rest) ↔ c = symbol ∧ Glob pattern rest := by
  rw [glob_cons]
  constructor
  · rintro ⟨piece, later, first, fits, same⟩
    obtain rfl : piece = [symbol] := by simpa [StandsFor, noStar, noAny] using first
    obtain ⟨rfl, rfl⟩ := List.cons.inj same
    exact ⟨rfl, fits⟩
  · rintro ⟨rfl, fits⟩
    exact ⟨[c], rest, by simp [StandsFor, noStar, noAny], fits, rfl⟩

/-- What the answer of an attempt says about a text.  A final one that is negative says more
than that the text does not fit: no end piece of it does, so that it is no use for a star
before the pattern to take more. -/
def Settles (pattern text : Text) : Option Bool → Prop
  | some true => Glob pattern text
  | some false => ∀ suffix, suffix <:+ text → ¬ Glob pattern suffix
  | none => ¬ Glob pattern text

theorem Settles.glob_iff {pattern text : Text} {answer : Option Bool}
    (settled : Settles pattern text answer) :
    answer.getD false = true ↔ Glob pattern text := by
  rcases answer with _ | _ | _
  · exact iff_of_false Bool.false_ne_true settled
  · exact iff_of_false Bool.false_ne_true (settled text List.suffix_rfl)
  · exact iff_of_true rfl settled

theorem seek_eq_true {attempt : Text → Option Bool} {pattern : Text}
    (settles : ∀ text, Settles pattern text (attempt text)) (text : Text) :
    seek attempt text = true ↔ ∃ suffix, suffix <:+ text ∧ Glob pattern suffix := by
  induction text with
  | nil =>
      rw [seek, (settles []).glob_iff]
      simp
  | cons c rest ih =>
      have settled := settles (c :: rest)
      rw [seek]
      generalize attempt (c :: rest) = answer at settled ⊢
      rcases answer with _ | _ | _
      · have skipped : ¬ Glob pattern (c :: rest) := settled
        simp only [ih, List.suffix_cons_iff]
        constructor
        · rintro ⟨suffix, shorter, fits⟩
          exact ⟨suffix, .inr shorter, fits⟩
        · rintro ⟨suffix, rfl | shorter, fits⟩
          · exact absurd fits skipped
          · exact ⟨suffix, shorter, fits⟩
      · refine iff_of_false Bool.false_ne_true ?_
        rintro ⟨suffix, shorter, fits⟩
        exact settled suffix shorter fits
      · exact iff_of_true rfl ⟨_, List.suffix_rfl, settled⟩

/-- Where a character fits, what the attempt on the rest says is said of the whole. -/
theorem Settles.advance {symbol c : Char} {pattern rest : Text} {answer : Option Bool}
    (settled : Settles pattern rest answer) (noStar : symbol ≠ '*')
    (whole : Glob (symbol :: pattern) (c :: rest) ↔ Glob pattern rest)
    (tail : ∀ d text, Glob (symbol :: pattern) (d :: text) → Glob pattern text) :
    Settles (symbol :: pattern) (c :: rest) answer := by
  rcases answer with _ | _ | _
  · exact fun fits => settled (whole.mp fits)
  · intro suffix shorter fits
    rcases List.suffix_cons_iff.mp shorter with rfl | within
    · exact settled rest List.suffix_rfl (whole.mp fits)
    · cases suffix with
      | nil => exact not_glob_cons_nil noStar fits
      | cons d text =>
          have deeper : text <:+ rest := (List.suffix_cons d text).trans within
          exact settled text deeper (tail d text fits)
  · exact whole.mpr settled

/-- Every answer of the matcher is right, although it goes back to the last star only. -/
theorem walk_settles (pattern text : Text) : Settles pattern text (walk pattern text) := by
  induction pattern generalizing text with
  | nil =>
      cases text with
      | nil => exact glob_nil.mpr rfl
      | cons c rest => exact fun fits => absurd (glob_nil.mp fits) (List.cons_ne_nil c rest)
  | cons symbol pattern ih =>
      by_cases star : symbol = '*'
      · subst star
        have sought := seek_eq_true ih text
        have step : walk ('*' :: pattern) text = some (seek (walk pattern) text) := rfl
        rw [step]
        cases answer : seek (walk pattern) text with
        | true => exact glob_star.mpr (sought.mp answer)
        | false =>
            intro suffix shorter fits
            obtain ⟨later, within, fitting⟩ := glob_star.mp fits
            have found := sought.mpr ⟨later, within.trans shorter, fitting⟩
            rw [answer] at found
            cases found
      · cases text with
        | nil =>
            have step : walk (symbol :: pattern) [] = some false := by simp [walk]
            rw [step]
            intro suffix shorter
            rw [List.suffix_nil.mp shorter]
            exact not_glob_cons_nil star
        | cons c rest =>
            by_cases any : symbol = '?'
            · subst any
              exact (ih rest).advance star glob_any_cons fun _ _ => glob_any_cons.mp
            · by_cases same : c = symbol
              · have step : walk (symbol :: pattern) (c :: rest) = walk pattern rest := by
                  simp [walk, same]
                have whole : Glob (symbol :: pattern) (c :: rest) ↔ Glob pattern rest := by
                  simp [glob_literal_cons star any, same]
                rw [step]
                exact (ih rest).advance star whole fun _ _ fits =>
                  ((glob_literal_cons star any).mp fits).2
              · have step : walk (symbol :: pattern) (c :: rest) = none := by
                  simp [walk, same]
                rw [step]
                exact fun fits => same ((glob_literal_cons star any).mp fits).1

/-- The matcher decides what a pattern stands for. -/
theorem fitsGlob_iff (text pattern : Text) :
    fitsGlob text pattern = true ↔ Glob pattern text :=
  (walk_settles pattern text).glob_iff

/-- A host name fits a pattern exactly if its lowercase form can be cut into pieces for which
the characters of the pattern's lowercase form stand one by one. -/
theorem fitsPattern_iff_pieces (host pattern : Text) :
    fitsPattern host pattern = true ↔
      ∃ pieces, List.Forall₂ StandsFor (Text.lowercase pattern) pieces ∧
        pieces.flatten = Text.lowercase host :=
  fitsGlob_iff _ _

-- The star before `b` takes as little as it can, and the one before `c` what is needed to
-- reach the end.
example : fitsPattern "aXbYcZc".toList "A*b?*c**".toList = true := by decide
example : fitsPattern "aXbYcZcd".toList "a*b?*c".toList = false := by decide

end SshConfig
