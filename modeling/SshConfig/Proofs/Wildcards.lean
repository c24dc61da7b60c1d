import SshConfig.Proofs.Glob
import SshConfig.Proofs.LetterCase

namespace SshConfig

/-! Patterns that are made from a host name.

Some characters of the name are left, others are replaced by `?`, and stretches of it by `*`.  Such
a pattern fits the name, in any letter case, where the lowercase forms of the two go along with each
other.  They need not: a form may have two characters, of which `?` stands for one, and a capital
sigma may be at the end of a word in the pattern only.
-/

/-- What becomes of a part of a host name in a pattern: a character is left, perhaps in another
letter case, or replaced by `?`, or a stretch is replaced by `*`. -/
inductive Replacement where
  | kept (original written : Char)
  | any (original : Char)
  | many (original : Text)
deriving DecidableEq, Repr

namespace Replacement

def original : Replacement → Text
  | .kept original _ => [original]
  | .any original => [original]
  | .many original => original

def symbol : Replacement → Char
  | .kept _ written => written
  | .any _ => '?'
  | .many _ => '*'

/-- The host name that the parts make up. -/
def host (parts : List Replacement) : Text :=
  parts.flatMap original

def pattern (parts : List Replacement) : Text :=
  parts.map symbol

/-- Whether the lowercase forms go along with each other behind the reversed texts `before` and
`beforePattern`: what is left has the same form in the pattern as in the host name, and what `?`
stands for has a form of one character. -/
def FormsAgree : Text → Text → List Replacement → Prop
  | _, _, [] => True
  | before, beforePattern, .kept original written :: rest =>
      Text.lowercaseBetween before original (host rest) =
        Text.lowercaseBetween beforePattern written (pattern rest) ∧
      FormsAgree (original :: before) (written :: beforePattern) rest
  | before, beforePattern, .any original :: rest =>
      original ≠ 'İ' ∧ FormsAgree (original :: before) ('?' :: beforePattern) rest
  | before, beforePattern, .many original :: rest =>
      FormsAgree (original.reverse ++ before) ('*' :: beforePattern) rest

end Replacement

open Replacement

theorem standsFor_self (c : Char) : StandsFor c [c] := by
  unfold StandsFor
  split
  · trivial
  · split <;> rfl

theorem glob_self (text : Text) : Glob text text := by
  induction text with
  | nil => exact glob_nil.mpr rfl
  | cons c rest ih => exact glob_cons.mpr ⟨[c], rest, standsFor_self c, ih, rfl⟩

theorem Glob.append {pattern later text rest : Text} (first : Glob pattern text)
    (second : Glob later rest) : Glob (pattern ++ later) (text ++ rest) := by
  obtain ⟨pieces, fits, rfl⟩ := first
  obtain ⟨others, fitsOthers, rfl⟩ := second
  exact ⟨pieces ++ others, List.rel_append fits fitsOthers, List.flatten_append⟩

theorem Glob.behind_star {pattern text : Text} (fits : Glob pattern text) (taken : Text) :
    Glob ('*' :: pattern) (taken ++ text) :=
  glob_star.mpr ⟨text, List.suffix_append taken text, fits⟩

theorem glob_of_formsAgree {before beforePattern : Text} {parts : List Replacement}
    (agree : FormsAgree before beforePattern parts) :
    Glob (Text.lowercaseAfter beforePattern (pattern parts))
      (Text.lowercaseAfter before (host parts)) := by
  induction parts generalizing before beforePattern with
  | nil => exact glob_nil.mpr rfl
  | cons part rest ih =>
      cases part with
      | kept original written =>
          obtain ⟨same, others⟩ := agree
          have form : Text.lowercaseAfter before (host (.kept original written :: rest)) =
              Text.lowercaseBetween beforePattern written (pattern rest) ++
                Text.lowercaseAfter (original :: before) (host rest) := by
            rw [← same]
            rfl
          rw [form]
          exact (glob_self _).append (ih others)
      | any original =>
          obtain ⟨undotted, others⟩ := agree
          have single := Text.lowercaseBetween_length before original (host rest)
          rw [if_neg undotted] at single
          obtain ⟨c, form⟩ := List.length_eq_one_iff.mp single
          have written : Text.lowercaseAfter before (host (.any original :: rest)) =
              c :: Text.lowercaseAfter (original :: before) (host rest) :=
            congrArg (· ++ Text.lowercaseAfter (original :: before) (host rest)) form
          rw [written]
          exact glob_any_cons.mpr (ih others)
      | many original =>
          obtain ⟨form, written⟩ := Text.lowercaseAfter_append before original (host rest)
          have whole : host (.many original :: rest) = original ++ host rest := rfl
          rw [whole, written]
          exact (ih agree).behind_star form

def FitsAlone (symbol c : Char) : Prop :=
  symbol = '?' ∨ c = symbol

theorem Glob.forall₂ {pattern text : Text} (noStar : '*' ∉ pattern) (fits : Glob pattern text) :
    List.Forall₂ FitsAlone pattern text := by
  induction pattern generalizing text with
  | nil =>
      rw [glob_nil.mp fits]
      exact .nil
  | cons symbol pattern ih =>
      have other : symbol ≠ '*' := fun star => noStar (by simp [star])
      have later : '*' ∉ pattern := fun star => noStar (by simp [star])
      cases text with
      | nil => exact absurd fits (not_glob_cons_nil other)
      | cons c rest =>
          by_cases any : symbol = '?'
          · subst any
            exact .cons (.inl rfl) (ih later (glob_any_cons.mp fits))
          · obtain ⟨same, tail⟩ := (glob_literal_cons other any).mp fits
            exact .cons (.inr same) (ih later tail)

theorem lowercaseBetween_eq_of_fits {before after beforePattern afterPattern : Text}
    {original written : Char} (same : Text.lowercase [original] = Text.lowercase [written])
    (fits : List.Forall₂ FitsAlone
      (Text.lowercaseBetween beforePattern written afterPattern)
      (Text.lowercaseBetween before original after)) :
    Text.lowercaseBetween before original after =
      Text.lowercaseBetween beforePattern written afterPattern := by
  by_cases sigma : original = 'Σ' ∨ written = 'Σ'
  -- Both letters are sigmas, so each has one of two forms, and neither fits the other.
  · have alone : Text.lowercase [original] = ['σ'] := by
      rcases sigma with rfl | rfl
      · exact Text.lowercase_sigma
      · exact same.trans Text.lowercase_sigma
    have form {c : Char} (alone : Text.lowercase [c] = ['σ']) (before after : Text) :
        Text.lowercaseBetween before c after = ['σ'] ∨
          Text.lowercaseBetween before c after = ['ς'] := by
      by_cases capital : c = 'Σ'
      · subst capital
        exact Text.lowercaseBetween_sigma before after
      · exact .inl ((Text.lowercaseBetween_of_ne_sigma capital before after).trans alone)
    rcases form alone before after with first | first <;>
      rcases form (same.symm.trans alone) beforePattern afterPattern with second | second <;>
      simp [first, second, FitsAlone] at fits ⊢
  · obtain ⟨otherOriginal, otherWritten⟩ := not_or.mp sigma
    rw [Text.lowercaseBetween_of_ne_sigma otherOriginal,
      Text.lowercaseBetween_of_ne_sigma otherWritten, same]

/-- Whether what is left of a host name is left up to letter case. -/
def Replacement.KeepsLetters (parts : List Replacement) : Prop :=
  ∀ original written, .kept original written ∈ parts →
    Text.lowercase [original] = Text.lowercase [written]

section Parts

variable (part : Replacement) (rest : List Replacement)

theorem host_cons : host (part :: rest) = part.original ++ host rest := rfl

theorem pattern_cons : pattern (part :: rest) = part.symbol :: pattern rest := rfl

end Parts

theorem length_lowercase_pattern_le {parts : List Replacement} (keeps : KeepsLetters parts)
    (noStar : '*' ∉ pattern parts) (before beforePattern : Text) :
    (Text.lowercaseAfter beforePattern (pattern parts)).length ≤
      (Text.lowercaseAfter before (host parts)).length := by
  rw [Text.lowercaseAfter_length, Text.lowercaseAfter_length]
  induction parts with
  | nil => exact Nat.le_refl _
  | cons part rest ih =>
      have others : KeepsLetters rest :=
        fun original written member => keeps original written (.tail _ member)
      have later : '*' ∉ pattern rest := fun star => noStar (.tail _ star)
      have tail := ih others later
      have first : (Text.lowercase [part.symbol]).length ≤
          (part.original.flatMap fun c => Text.lowercase [c]).length := by
        cases part with
        | kept original written =>
            have same := keeps original written List.mem_cons_self
            simp [symbol, Replacement.original, same]
        | any original =>
            have form := Text.lowercaseBetween_length [] original []
            have filled : (Text.lowercase [symbol (.any original)]).length ≤
                (Text.lowercase [original]).length := by
              change 1 ≤ (Text.lowercase [original]).length
              rw [Text.lowercase_singleton]
              split at form <;> omega
            simpa [Replacement.original] using filled
        | many original => exact absurd List.mem_cons_self noStar
      rw [host_cons, pattern_cons, List.flatMap_append, List.flatMap_cons, List.length_append,
        List.length_append]
      exact Nat.add_le_add first tail

/-- Without stars there is no other way for the pattern to fit than part by part. -/
theorem formsAgree_of_fits {before beforePattern : Text} {parts : List Replacement}
    (keeps : KeepsLetters parts) (noStar : '*' ∉ pattern parts)
    (fits : List.Forall₂ FitsAlone
      (Text.lowercaseAfter beforePattern (pattern parts))
      (Text.lowercaseAfter before (host parts))) :
    FormsAgree before beforePattern parts := by
  induction parts generalizing before beforePattern with
  | nil => trivial
  | cons part rest ih =>
      have others : KeepsLetters rest :=
        fun original written member => keeps original written (.tail _ member)
      have later : '*' ∉ pattern rest := fun star => noStar (.tail _ star)
      cases part with
      | kept original written =>
          have same := keeps original written List.mem_cons_self
          have form : (Text.lowercaseBetween beforePattern written (pattern rest)).length =
              (Text.lowercaseBetween before original (host rest)).length := by
            rw [Text.lowercaseBetween_length_eq, Text.lowercaseBetween_length_eq, same]
          have parted : List.Forall₂ FitsAlone
              (Text.lowercaseBetween beforePattern written (pattern rest) ++
                Text.lowercaseAfter (written :: beforePattern) (pattern rest))
              (Text.lowercaseBetween before original (host rest) ++
                Text.lowercaseAfter (original :: before) (host rest)) := fits
          have front := List.forall₂_take
            (Text.lowercaseBetween beforePattern written (pattern rest)).length parted
          have tail := List.forall₂_drop
            (Text.lowercaseBetween beforePattern written (pattern rest)).length parted
          rw [List.take_left, List.take_left' form.symm] at front
          rw [List.drop_left, List.drop_left' form.symm] at tail
          exact ⟨lowercaseBetween_eq_of_fits same front, ih others later tail⟩
      | any original =>
          have parted : List.Forall₂ FitsAlone
              ('?' :: Text.lowercaseAfter ('?' :: beforePattern) (pattern rest))
              (Text.lowercaseBetween before original (host rest) ++
                Text.lowercaseAfter (original :: before) (host rest)) := fits
          have lengths := parted.length_eq
          have bound :=
            length_lowercase_pattern_le others later (original :: before) ('?' :: beforePattern)
          have form := Text.lowercaseBetween_length before original (host rest)
          rw [List.length_cons, List.length_append] at lengths
          -- A form of two characters would leave too few for the rest of the pattern.
          have undotted : original ≠ 'İ' := by
            intro dotted
            rw [if_pos dotted] at form
            omega
          rw [if_neg undotted] at form
          obtain ⟨c, single⟩ := List.length_eq_one_iff.mp form
          rw [single] at parted
          exact ⟨undotted, ih others later (List.forall₂_cons.mp parted).2⟩
      | many original => exact absurd List.mem_cons_self noStar

theorem formsAgree_of_keepsLetters {before beforePattern : Text} {parts : List Replacement}
    (keeps : KeepsLetters parts)
    (noSigma : ∀ original written, .kept original written ∈ parts →
      original ≠ 'Σ' ∧ written ≠ 'Σ')
    (undotted : ∀ original, .any original ∈ parts → original ≠ 'İ') :
    FormsAgree before beforePattern parts := by
  induction parts generalizing before beforePattern with
  | nil => trivial
  | cons part rest ih =>
      have tail {before beforePattern : Text} : FormsAgree before beforePattern rest :=
        ih (fun original written member => keeps original written (.tail _ member))
          (fun original written member => noSigma original written (.tail _ member))
          (fun original member => undotted original (.tail _ member))
      cases part with
      | kept original written =>
          obtain ⟨otherOriginal, otherWritten⟩ := noSigma original written List.mem_cons_self
          have same := keeps original written List.mem_cons_self
          refine ⟨?_, tail⟩
          rw [Text.lowercaseBetween_of_ne_sigma otherOriginal,
            Text.lowercaseBetween_of_ne_sigma otherWritten, same]
      | any original => exact ⟨undotted original List.mem_cons_self, tail⟩
      | many original => exact tail

/-- A pattern that is made from a host name fits it where the lowercase forms of the two go along
with each other, and, if it has no stars and keeps the letters, only there.  They go along wherever
no sigma is left and no dotted I replaced by `?`. -/
theorem fitsPattern_wildcards (parts : List Replacement) :
    (FormsAgree [] [] parts → fitsPattern (host parts) (pattern parts) = true) ∧
    (KeepsLetters parts → '*' ∉ pattern parts →
      fitsPattern (host parts) (pattern parts) = true → FormsAgree [] [] parts) ∧
    (KeepsLetters parts →
      (∀ original written, .kept original written ∈ parts → original ≠ 'Σ' ∧ written ≠ 'Σ') →
      (∀ original, .any original ∈ parts → original ≠ 'İ') →
      fitsPattern (host parts) (pattern parts) = true) := by
  have fits_of_agree (agree : FormsAgree [] [] parts) :
      fitsPattern (host parts) (pattern parts) = true :=
    (fitsGlob_iff _ _).mpr (glob_of_formsAgree agree)
  refine ⟨fits_of_agree, ?_, ?_⟩
  · intro keeps noStar fits
    have noStarBelow : '*' ∉ Text.lowercase (pattern parts) := fun star =>
      noStar (Text.mem_of_mem_lowercaseAfter (by decide) (by decide) star)
    have glob : Glob (Text.lowercase (pattern parts)) (Text.lowercase (host parts)) :=
      (fitsGlob_iff _ _).mp fits
    exact formsAgree_of_fits keeps noStar (glob.forall₂ noStarBelow)
  · intro keeps noSigma undotted
    exact fits_of_agree (formsAgree_of_keepsLetters keeps noSigma undotted)

/-- In both texts the sigma is at the end of a word; the other name has no sigma at all. -/
theorem fitsPattern_wildcards_sigma :
    let parts : List Replacement := [.any 'Ο', .kept 'Δ' 'δ', .kept 'Σ' 'Σ']
    let others : List Replacement := [.kept 'W' 'w', .any 'e', .many ['b', '1']]
    (FormsAgree [] [] parts ∧ KeepsLetters parts ∧ '*' ∉ pattern parts ∧
      fitsPattern (host parts) (pattern parts) = true) ∧
    KeepsLetters others ∧ fitsPattern (host others) (pattern others) = true := by
  intro parts others
  have agree : FormsAgree [] [] parts :=
    ⟨by decide +kernel, by decide +kernel, by decide +kernel, trivial⟩
  have keeps : KeepsLetters parts := by
    intro original written member
    simp only [parts, List.mem_cons, Replacement.kept.injEq, reduceCtorEq, false_or,
      List.not_mem_nil, or_false] at member
    rcases member with ⟨rfl, rfl⟩ | ⟨rfl, rfl⟩ <;> rfl
  have noStar : '*' ∉ pattern parts := by decide
  have fits := (fitsPattern_wildcards parts).1 agree
  have one {original written : Char} (member : .kept original written ∈ others) :
      original = 'W' ∧ written = 'w' := by
    simpa [others] using member
  have keepsOthers : KeepsLetters others := by
    intro original written member
    obtain ⟨rfl, rfl⟩ := one member
    rfl
  have fitsOthers := (fitsPattern_wildcards others).2.2 keepsOthers
    (by
      intro original written member
      obtain ⟨rfl, rfl⟩ := one member
      decide)
    (by
      intro original member
      have same : original = 'e' := by simpa [others] using member
      subst same
      decide)
  exact ⟨⟨(fitsPattern_wildcards parts).2.1 keeps noStar fits, keeps, noStar, fits⟩,
    keepsOthers, fitsOthers⟩

/-- The form of the dotted I has two characters, and before the star the sigma ends a word that goes
on in the host name. -/
theorem not_fitsPattern_wildcards :
    fitsPattern (host [.any 'İ']) (pattern [.any 'İ']) = false ∧
    fitsPattern (host [.kept 'Α' 'Α', .kept 'Σ' 'Σ', .many ['Α']])
      (pattern [.kept 'Α' 'Α', .kept 'Σ' 'Σ', .many ['Α']]) = false := by
  decide +kernel

end SshConfig
