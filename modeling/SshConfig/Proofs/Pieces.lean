import SshConfig.Text.Basic

namespace SshConfig.Text

/-! Texts that are cut at a separator.

The pieces of a text are those of its parts, wherever it is cut at a separator, and joined again they
are the text.  So a list of pieces without separators and a text are two ways to write the same.
-/

variable {separator c : Char} {text before after : Text}

theorem splitAll_append (first second : Text) :
    splitAll separator (first ++ separator :: second) =
      splitAll separator first ++ splitAll separator second := by
  induction first with
  | nil => simp [splitAll]
  | cons c rest ih =>
      by_cases here : c = separator
      · simp [splitAll, here, ih]
      · simp only [List.cons_append, splitAll, here, if_false, ih]
        cases pieces : splitAll separator rest with
        | nil => exact absurd pieces (splitAll_ne_nil separator rest)
        | cons piece others => rfl

theorem splitAll_length (separator : Char) (text : Text) :
    (splitAll separator text).length = 1 + text.count separator := by
  induction text with
  | nil => rfl
  | cons c rest ih =>
      by_cases here : c = separator
      · simp only [splitAll, here, if_true, List.length_cons, List.count_cons_self]
        omega
      · simp only [splitAll, here, if_false, List.count_cons_of_ne here]
        cases pieces : splitAll separator rest with
        | nil => exact absurd pieces (splitAll_ne_nil separator rest)
        | cons piece others => simpa [pieces] using ih

theorem splitAll_of_not_mem (whole : separator ∉ text) : splitAll separator text = [text] := by
  induction text with
  | nil => rfl
  | cons c rest ih =>
      obtain ⟨other, later⟩ := not_or.mp (mt List.mem_cons.mpr whole)
      simp [splitAll, Ne.symm other, ih later]

theorem not_mem_of_mem_splitAll {piece : Text} (member : piece ∈ splitAll separator text) :
    separator ∉ piece := by
  induction text generalizing piece with
  | nil =>
      rw [List.mem_singleton.mp member]
      exact List.not_mem_nil
  | cons c rest ih =>
      by_cases here : c = separator
      · simp only [splitAll, here, if_true, List.mem_cons] at member
        rcases member with rfl | later
        · exact List.not_mem_nil
        · exact ih later
      · cases pieces : splitAll separator rest with
        | nil => exact absurd pieces (splitAll_ne_nil separator rest)
        | cons first others =>
            simp only [splitAll, here, if_false, pieces, List.mem_cons] at member
            rcases member with rfl | later
            · have whole : separator ∉ first := ih (by simp [pieces])
              exact List.not_mem_cons_of_ne_of_not_mem (Ne.symm here) whole
            · exact ih (by simp [pieces, later])

theorem join_singleton (piece : Text) : join [separator] [piece] = piece := by
  simp [join]

theorem join_cons (piece : Text) {pieces : List Text} (more : pieces ≠ []) :
    join [separator] (piece :: pieces) = piece ++ separator :: join [separator] pieces := by
  cases pieces with
  | nil => exact absurd rfl more
  | cons next rest => simp [join]

theorem join_append {first second : List Text} (some : first ≠ []) (more : second ≠ []) :
    join [separator] (first ++ second) =
      join [separator] first ++ separator :: join [separator] second := by
  induction first with
  | nil => exact absurd rfl some
  | cons piece rest ih =>
      cases rest with
      | nil => rw [List.singleton_append, join_cons piece more, join_singleton]
      | cons next rest =>
          have filled : next :: rest ≠ [] := List.cons_ne_nil next rest
          rw [List.cons_append, join_cons piece (by simp), ih filled, join_cons piece filled,
            List.append_assoc, List.cons_append]

theorem join_splitAll (separator : Char) (text : Text) :
    join [separator] (splitAll separator text) = text := by
  induction text with
  | nil => rfl
  | cons c rest ih =>
      by_cases here : c = separator
      · rw [splitAll, if_pos here, join_cons [] (splitAll_ne_nil separator rest), ih, here]
        rfl
      · cases pieces : splitAll separator rest with
        | nil => exact absurd pieces (splitAll_ne_nil separator rest)
        | cons piece others =>
            rw [pieces] at ih
            simp only [splitAll, here, if_false, pieces]
            rw [← ih]
            cases others <;> simp [join]

theorem splitAll_join {pieces : List Text} (some : pieces ≠ [])
    (whole : ∀ piece ∈ pieces, separator ∉ piece) :
    splitAll separator (join [separator] pieces) = pieces := by
  induction pieces with
  | nil => exact absurd rfl some
  | cons piece rest ih =>
      have wholeFirst : separator ∉ piece := whole piece List.mem_cons_self
      cases rest with
      | nil => rw [join_singleton, splitAll_of_not_mem wholeFirst]
      | cons next rest =>
          have filled : next :: rest ≠ [] := List.cons_ne_nil next rest
          rw [join_cons piece filled, splitAll_append, splitAll_of_not_mem wholeFirst,
            ih filled fun other member => whole other (List.mem_cons_of_mem _ member)]
          rfl

theorem splitFirst_cons :
    splitFirst separator (c :: text) =
      if c = separator then some ([], text)
      else (splitFirst separator text).map fun parts => (c :: parts.1, parts.2) := by
  unfold splitFirst
  by_cases here : c = separator
  · simp [here]
  · rw [List.dropWhile_cons_of_pos (by simpa using here), if_neg here,
      List.takeWhile_cons_of_pos (by simpa using here)]
    cases text.dropWhile (· != separator) <;> rfl

theorem splitFirst_eq_none : splitFirst separator text = none ↔ separator ∉ text := by
  induction text with
  | nil => simp [splitFirst]
  | cons c rest ih =>
      rw [splitFirst_cons, List.mem_cons, not_or, ← ih]
      by_cases here : c = separator
      · simp [here]
      · simp [here, Ne.symm here]

theorem splitFirst_append (absent : separator ∉ before) :
    splitFirst separator (before ++ separator :: after) = some (before, after) := by
  induction before with
  | nil => simp [splitFirst_cons]
  | cons c rest ih =>
      obtain ⟨other, later⟩ := not_or.mp (mt List.mem_cons.mpr absent)
      rw [List.cons_append, splitFirst_cons, if_neg (Ne.symm other), ih later]
      rfl

theorem splitFirst_eq_some :
    splitFirst separator text = some (before, after) ↔
      text = before ++ separator :: after ∧ separator ∉ before := by
  constructor
  · intro parted
    induction text generalizing before with
    | nil => cases parted
    | cons c rest ih =>
        rw [splitFirst_cons] at parted
        split at parted
        · rename_i here
          cases parted
          exact ⟨by rw [here, List.nil_append], List.not_mem_nil⟩
        · rename_i other
          obtain ⟨⟨earlier, later⟩, found, same⟩ := Option.map_eq_some_iff.mp parted
          cases same
          obtain ⟨rfl, absent⟩ := ih found
          exact ⟨rfl, List.not_mem_cons_of_ne_of_not_mem (Ne.symm other) absent⟩
  · rintro ⟨rfl, absent⟩
    exact splitFirst_append absent

end SshConfig.Text
