import SshConfig.Proofs.Lines

namespace SshConfig

/-! Arguments between quotation marks.

Every text can be written as one argument: between quotation marks, with a backslash before each
mark and each backslash that belongs to the text.  White space needs no backslash there.
-/

namespace Text

def escaped : Text → Text
  | [] => []
  | c :: rest => if c = '"' || c = '\\' then '\\' :: c :: escaped rest else c :: escaped rest

/-- The text as an argument between quotation marks. -/
def quoted (text : Text) : Text :=
  '"' :: escaped text ++ ['"']

theorem mem_of_mem_escaped {text : Text} {c : Char} (member : c ∈ escaped text)
    (noBackslash : c ≠ '\\') : c ∈ text := by
  induction text with
  | nil => cases member
  | cons d rest ih =>
      unfold escaped at member
      split at member
      · simp only [List.mem_cons, noBackslash, false_or] at member
        exact List.mem_cons.mpr (member.imp_right ih)
      · exact List.mem_cons.mpr ((List.mem_cons.mp member).imp_right ih)

theorem trim_of_ink {first last : Char} (middle : Text) (firstInk : isBlank first = false)
    (lastInk : isBlank last = false) :
    trim (first :: middle ++ [last]) = first :: middle ++ [last] := by
  have start : trimStart (first :: middle ++ [last]) = first :: middle ++ [last] := by
    simp [trimStart, firstInk]
  have finish : trimEnd (first :: middle ++ [last]) = first :: middle ++ [last] := by
    simp [trimEnd, lastInk]
  rw [trim, start, finish]

end Text

theorem readArgumentsFrom_escaped (text rest word : Text) :
    readArgumentsFrom (.quoted word) (Text.escaped text ++ rest) =
      readArgumentsFrom (.quoted (word ++ text)) rest := by
  induction text generalizing word with
  | nil => simp [Text.escaped]
  | cons c text ih =>
      by_cases special : c = '"' ∨ c = '\\'
      · have next : readArgumentsFrom (.quoted word) ('\\' :: c :: (Text.escaped text ++ rest)) =
            readArgumentsFrom (.quoted (word ++ [c])) (Text.escaped text ++ rest) := by
          simp [readArgumentsFrom, special]
        simpa [Text.escaped, special, ih] using next
      · have plain : ¬ c = '"' ∧ ¬ c = '\\' := not_or.mp special
        have next : readArgumentsFrom (.quoted word) (c :: (Text.escaped text ++ rest)) =
            readArgumentsFrom (.quoted (word ++ [c])) (Text.escaped text ++ rest) := by
          simp [readArgumentsFrom, plain]
        simpa [Text.escaped, plain, ih] using next

theorem readArgumentsFrom_quoted (argument rest : Text) :
    readArgumentsFrom .between (Text.quoted argument ++ rest) =
      (readArgumentsFrom .closed rest).map (argument :: ·) := by
  have begun : readArgumentsFrom .between (Text.quoted argument ++ rest) =
      readArgumentsFrom (.quoted []) (Text.escaped argument ++ ('"' :: rest)) := by
    simp [Text.quoted, readArgumentsFrom, Text.isBlank]
  have ended : readArgumentsFrom (.quoted argument) ('"' :: rest) =
      (readArgumentsFrom .closed rest).map (argument :: ·) := rfl
  rw [begun, readArgumentsFrom_escaped, List.nil_append, ended]

/-- What is quoted is read as the one argument that it was. -/
theorem readArguments_quoted (text : Text) : readArguments (Text.quoted text) = .ok [text] := by
  have begun : readArguments (Text.quoted text) =
      readArgumentsFrom (.quoted []) (Text.escaped text ++ ['"']) := rfl
  rw [begun, readArgumentsFrom_escaped]
  rfl

/-- A line that includes the file that the argument means. -/
def inclusionOf (argument : Text) : Text :=
  "Include ".toList ++ Text.quoted argument

theorem read_inclusionOf (argument : Text) :
    Line.read (inclusionOf argument) = .ok (.directive .inclusion [argument]) := by
  have trimmed : Text.trim (inclusionOf argument) = inclusionOf argument :=
    Text.trim_of_ink ("nclude \"".toList ++ Text.escaped argument) rfl rfl
  have cut : Line.splitKeyword (inclusionOf argument) =
      some ("Include".toList, Text.quoted argument) := rfl
  have known : Keyword.ofWord? "Include".toList = some .inclusion := rfl
  rw [Line.read, trimmed]
  split
  · rename_i empty
    cases empty
  · rename_i comment
    cases comment
  · rw [cut]
    simp only [known, readArguments_quoted]
    rfl

theorem not_mem_inclusionOf {argument : Text} (oneLine : '\n' ∉ argument) :
    '\n' ∉ inclusionOf argument := by
  intro member
  have inside : '\n' ∈ Text.quoted argument := by
    rcases List.mem_append.mp member with keyword | quoted
    · exact absurd keyword (by decide)
    · exact quoted
  have written : '\n' ∈ Text.escaped argument := by
    simpa [Text.quoted] using inside
  exact oneLine (Text.mem_of_mem_escaped written (by decide))

theorem lines_inclusionOf {argument : Text} (oneLine : '\n' ∉ argument) :
    Text.lines (inclusionOf argument) = [inclusionOf argument] := by
  rw [Text.lines, Text.splitAll_of_not_mem (not_mem_inclusionOf oneLine)]
  rfl

end SshConfig
