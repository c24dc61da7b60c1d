import SshConfig.Text.Ascii
import SshConfig.Text.Lowercase

namespace SshConfig.Text

/-! Lowercase forms, character by character.

Only the form of a capital sigma depends on what stands around it, and only the capital I with a dot
above has a form of two characters.  A sign below the letters of ASCII is the form of itself alone.
The letters of ASCII around a sigma have a case whether they are capital or small, so no form depends
on which they are.
-/

theorem lowercase_singleton (c : Char) : lowercase [c] = lowercaseBetween [] c [] :=
  List.append_nil _

theorem lowercaseBetween_of_ne_sigma {c : Char} (other : c ≠ 'Σ') (before after : Text) :
    lowercaseBetween before c after = lowercase [c] := by
  rw [lowercase_singleton]
  unfold lowercaseBetween
  simp [other]

theorem lowercaseBetween_sigma (before after : Text) :
    lowercaseBetween before 'Σ' after = ['σ'] ∨ lowercaseBetween before 'Σ' after = ['ς'] := by
  cases final : meetsCased before && !meetsCased after with
  | true => exact .inr (by simp [lowercaseBetween, final])
  | false => exact .inl (by simp [lowercaseBetween, final])

theorem lowercase_sigma : lowercase ['Σ'] = ['σ'] := rfl

theorem lowercaseBetween_length (before : Text) (c : Char) (after : Text) :
    (lowercaseBetween before c after).length = if c = 'İ' then 2 else 1 := by
  by_cases dotted : c = 'İ'
  · subst dotted
    rfl
  · unfold lowercaseBetween
    simp only [dotted, if_false]
    repeat' split
    all_goals rfl

theorem lowercaseBetween_length_eq (before : Text) (c : Char) (after : Text) :
    (lowercaseBetween before c after).length = (lowercase [c]).length := by
  rw [lowercase_singleton, lowercaseBetween_length, lowercaseBetween_length]

theorem lowercaseAfter_length (before text : Text) :
    (lowercaseAfter before text).length = (text.flatMap fun c => lowercase [c]).length := by
  induction text generalizing before with
  | nil => rfl
  | cons c rest ih =>
      rw [lowercaseAfter, List.length_append, lowercaseBetween_length_eq, ih, List.flatMap_cons,
        List.length_append]

/-- The form of the first part depends on the rest, but that of the rest begins anew. -/
theorem lowercaseAfter_append (before text rest : Text) :
    ∃ form, lowercaseAfter before (text ++ rest) =
      form ++ lowercaseAfter (text.reverse ++ before) rest := by
  induction text generalizing before with
  | nil => exact ⟨[], rfl⟩
  | cons c text ih =>
      obtain ⟨form, same⟩ := ih (c :: before)
      refine ⟨lowercaseBetween before c (text ++ rest) ++ form, ?_⟩
      simp [lowercaseAfter, same]

theorem letterRuns_small : ∀ run ∈ letterRuns, 0x41 ≤ run.small := by
  decide +kernel

theorem toLower_cases (c : Char) :
    c.toLower = c ∨ 65 ≤ c.toNat ∧ c.toNat ≤ 90 ∧ c.toLower.toNat = c.toNat + 32 := by
  by_cases capital : c.val ≥ 'A'.val ∧ c.val ≤ 'Z'.val
  · have lower : 65 ≤ c.toNat := UInt32.le_iff_toNat_le.mp capital.1
    have upper : c.toNat ≤ 90 := UInt32.le_iff_toNat_le.mp capital.2
    have shift : ('a'.val - 'A'.val).toNat = 32 := rfl
    have moved : c.toLower.toNat = (c.val + ('a'.val - 'A'.val)).toNat :=
      congrArg Char.toNat (dif_pos capital)
    have same : c.val.toNat = c.toNat := rfl
    refine .inr ⟨lower, upper, ?_⟩
    rw [moved, UInt32.toNat_add]
    omega
  · exact .inl (dif_neg capital)

theorem toLower_eq_or (c : Char) : c.toLower = c ∨ 0x41 ≤ c.toLower.toNat := by
  rcases toLower_cases c with same | ⟨lower, -, moved⟩
  · exact .inl same
  · exact .inr (by omega)

theorem toLower_toLower (c : Char) : c.toLower.toLower = c.toLower := by
  rcases toLower_cases c.toLower with same | ⟨lower, upper, -⟩
  · exact same
  · rcases toLower_cases c with same | ⟨capital, -, moved⟩
    · rw [same, same]
    · omega

theorem smallLetter_eq_or (c : Char) :
    smallLetter c = c ∨ smallLetter c = '\x00' ∨ 0x41 ≤ (smallLetter c).toNat := by
  unfold smallLetter
  split
  · rename_i run found
    have bound := letterRuns_small run (List.mem_of_find?_eq_some found)
    by_cases valid : (run.small + (c.toNat - run.capital)).isValidChar
    · have code : (Char.ofNat (run.small + (c.toNat - run.capital))).toNat =
          run.small + (c.toNat - run.capital) := by
        rw [Char.ofNat, dif_pos valid]
        rfl
      exact .inr (.inr (by omega))
    · exact .inr (.inl (dif_neg valid))
  · exact .inl rfl

theorem eq_of_mem_lowercaseBetween {before after : Text} {c sign : Char}
    (some : sign ≠ '\x00') (low : sign.toNat < 0x41)
    (member : sign ∈ lowercaseBetween before c after) : c = sign := by
  unfold lowercaseBetween at member
  split at member
  · have form : sign = c.toLower := List.mem_singleton.mp member
    rcases toLower_eq_or c with same | letter
    · exact (form.trans same).symm
    · rw [← form] at letter
      omega
  · repeat' split at member
    · rw [List.mem_singleton.mp member] at low
      exact absurd low (by decide)
    · rw [List.mem_singleton.mp member] at low
      exact absurd low (by decide)
    · rcases List.mem_cons.mp member with rfl | second
      · exact absurd low (by decide)
      · rw [List.mem_singleton.mp second] at low
        exact absurd low (by decide)
    · have form : sign = smallLetter c := List.mem_singleton.mp member
      rcases smallLetter_eq_or c with same | none | letter
      · exact (form.trans same).symm
      · exact absurd (form.trans none) some
      · rw [← form] at letter
        omega

theorem mem_of_mem_lowercaseAfter {before text : Text} {sign : Char} (some : sign ≠ '\x00')
    (low : sign.toNat < 0x41) (member : sign ∈ lowercaseAfter before text) : sign ∈ text := by
  induction text generalizing before with
  | nil => exact member
  | cons c rest ih =>
      rcases List.mem_append.mp member with form | later
      · rw [eq_of_mem_lowercaseBetween some low form]
        exact List.mem_cons_self
      · exact .tail _ (ih later)

theorem isCased_of_letter {c : Char}
    (letter : 65 ≤ c.toNat ∧ c.toNat ≤ 90 ∨ 97 ≤ c.toNat ∧ c.toNat ≤ 122) :
    isCased c = true ∧ isCaseIgnorable c = false := by
  have ascii : c.toNat < 0x80 := by omega
  constructor
  · rw [isCased, if_pos ascii]
    unfold Char.isAlpha Char.isUpper Char.isLower
    simp only [Bool.or_eq_true, Bool.and_eq_true, decide_eq_true_eq, ge_iff_le,
      UInt32.le_iff_toNat_le]
    exact letter
  · have other (sign : Char) (apart : sign.toNat < 65 ∨ 90 < sign.toNat ∧ sign.toNat < 97) :
        (c == sign) = false := by
      refine beq_eq_false_iff_ne.mpr ?_
      rintro rfl
      omega
    rw [isCaseIgnorable, if_pos ascii, other '\x27' (by decide), other '.' (by decide),
      other ':' (by decide), other '^' (by decide), other '\x60' (by decide)]
    rfl

theorem meetsCased_cons (c : Char) (rest : Text) :
    meetsCased (c :: rest) = if isCaseIgnorable c then meetsCased rest else isCased c := by
  unfold meetsCased
  cases ignorable : isCaseIgnorable c <;> simp [ignorable]

theorem meetsCased_lowerAscii (text : Text) : meetsCased (lowerAscii text) = meetsCased text := by
  induction text with
  | nil => rfl
  | cons c rest ih =>
      have step : lowerAscii (c :: rest) = c.toLower :: lowerAscii rest := rfl
      rw [step, meetsCased_cons, meetsCased_cons, ih]
      rcases toLower_cases c with same | ⟨lower, upper, moved⟩
      · rw [same]
      · -- The search ends at a letter of ASCII, whether it is capital or small.
        have capital := isCased_of_letter (c := c) (.inl ⟨lower, upper⟩)
        have small := isCased_of_letter (c := c.toLower) (.inr (by omega))
        rw [capital.1, capital.2, small.1, small.2]

theorem lowercaseBetween_lowerAscii (before : Text) (c : Char) (after : Text) :
    lowercaseBetween (lowerAscii before) c.toLower (lowerAscii after) =
      lowercaseBetween before c after := by
  unfold lowercaseBetween
  rw [meetsCased_lowerAscii, meetsCased_lowerAscii, toLower_toLower]
  rcases toLower_cases c with same | ⟨lower, upper, moved⟩
  · rw [same]
  · have capital : c.toNat < 0x80 := by omega
    have small : c.toLower.toNat < 0x80 := by omega
    rw [if_pos capital, if_pos small]

theorem lowercaseAfter_lowerAscii (before text : Text) :
    lowercaseAfter (lowerAscii before) (lowerAscii text) = lowercaseAfter before text := by
  induction text generalizing before with
  | nil => rfl
  | cons c rest ih =>
      have form := lowercaseBetween_lowerAscii before c rest
      have later : lowercaseAfter (c.toLower :: lowerAscii before) (lowerAscii rest) =
          lowercaseAfter (c :: before) rest := ih (c :: before)
      rw [lowercaseAfter, ← form, ← later]
      rfl

theorem lowercase_lowerAscii (text : Text) : lowercase (lowerAscii text) = lowercase text :=
  lowercaseAfter_lowerAscii [] text

theorem lowercase_eq_of_lowerAscii_eq {left right : Text}
    (same : lowerAscii left = lowerAscii right) : lowercase left = lowercase right := by
  rw [← lowercase_lowerAscii, same, lowercase_lowerAscii]

end SshConfig.Text
