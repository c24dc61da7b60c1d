import SshConfig.Proofs.Interpretation
import SshConfig.Proofs.Pieces

namespace SshConfig

/-! Texts that are put together from two.

A line feed between two texts ends the last line of the first, also where that line is
empty or ends in a carriage return, and would otherwise be no line or keep the return.
Neither makes a difference to what the lines do, since an empty line asks for nothing and
white space at the end of a line is not read.
-/

namespace Text

theorem linesOfPieces_append {later : List Text} (some : later ≠ []) (pieces : List Text) :
    linesOfPieces (pieces ++ later) = pieces.map dropReturn ++ linesOfPieces later := by
  induction pieces with
  | nil => rfl
  | cons piece rest ih =>
      obtain ⟨next, others, same⟩ := List.exists_cons_of_ne_nil
        (List.append_ne_nil_of_right_ne_nil rest some)
      rw [List.cons_append, same, linesOfPieces, ← same, ih]
      rfl

theorem lines_append (first second : Text) :
    lines (first ++ '\n' :: second) =
      (splitAll '\n' first).map dropReturn ++ lines second := by
  rw [lines, splitAll_append, linesOfPieces_append (splitAll_ne_nil '\n' second), ← lines]

/-- The lines before a line of a text are the lines of a text of their own. -/
theorem exists_lines_eq {text line : Text} {before rest : List Text}
    (cut : lines text = before ++ line :: rest) :
    ∃ first last, text = first ++ last ∧ lines first = before := by
  induction before generalizing text with
  | nil => exact ⟨[], text, rfl, rfl⟩
  | cons head before ih =>
      by_cases feed : '\n' ∈ text
      · obtain ⟨piece, remaining, rfl, oneLine⟩ := List.eq_append_cons_of_mem feed
        rw [lines_append, splitAll_of_not_mem oneLine] at cut
        simp only [List.map_cons, List.map_nil, List.cons_append, List.nil_append,
          List.cons.injEq] at cut
        obtain ⟨first, last, rfl, same⟩ := ih cut.2
        refine ⟨piece ++ '\n' :: first, last, by simp, ?_⟩
        rw [lines_append, splitAll_of_not_mem oneLine, same, ← cut.1]
        rfl
      · rw [lines, splitAll_of_not_mem feed, linesOfPieces] at cut
        split at cut <;> simp at cut

theorem trimEnd_append_blank {tail : Text} (text : Text)
    (blank : ∀ c ∈ tail, isBlank c = true) : trimEnd (text ++ tail) = trimEnd text := by
  rw [trimEnd, List.reverse_append, List.dropWhile_append_of_pos (by simpa using blank)]
  rfl

theorem trim_append_blank {tail : Text} (text : Text)
    (blank : ∀ c ∈ tail, isBlank c = true) : trim (text ++ tail) = trim text := by
  have dropped : tail.dropWhile isBlank = [] := by
    rw [← List.append_nil tail, List.dropWhile_append_of_pos blank, List.dropWhile_nil]
  rw [trim, trimStart, List.dropWhile_append, dropped]
  split
  · rename_i nothing
    rw [trim, trimStart, List.isEmpty_iff.mp nothing]
  · exact trimEnd_append_blank _ blank

theorem trim_dropReturn (line : Text) : trim (dropReturn line) = trim line := by
  unfold dropReturn
  split
  · rename_i last
    obtain ⟨kept, rfl⟩ := List.getLast?_eq_some_iff.mp last
    have blank : ∀ c ∈ ['\r'], isBlank c = true := by
      intro c member
      rw [List.mem_singleton.mp member]
      rfl
    rw [List.dropLast_concat, trim_append_blank kept blank]
  · rfl

end Text

theorem Line.read_of_trim_eq {left right : Text} (same : Text.trim left = Text.trim right) :
    Line.read left = Line.read right := by
  rw [read, read, same]

theorem Directive.ofLine_dropReturn (line : Text) :
    ofLine (Text.dropReturn line) = ofLine line := by
  rw [ofLine, ofLine, Line.read_of_trim_eq (Text.trim_dropReturn line)]

variable (surroundings : Surroundings) (nested : Option Interpretation) (place : Place)

theorem interpretLines_linesOfPieces (number : Nat) (pieces : List Text) (draft : Draft) :
    interpretLines surroundings nested place number (Text.linesOfPieces pieces) draft =
      interpretLines surroundings nested place number (pieces.map Text.dropReturn) draft := by
  induction pieces generalizing number draft with
  | nil => rfl
  | cons piece rest ih =>
      cases rest with
      | nil =>
          cases piece with
          | nil => rfl
          | cons c text =>
              simp only [Text.linesOfPieces, List.isEmpty_cons, Bool.false_eq_true, if_false,
                List.map_cons, List.map_nil, interpretLines, interpretLine_eq,
                Directive.ofLine_dropReturn]
      | cons next others =>
          simp only [Text.linesOfPieces, List.map_cons, interpretLines]
          congr 1
          funext middle
          exact ih (number + 1) middle

/-- Of two texts with a line feed between them, the first is interpreted as it would be
alone, and the second after it. -/
theorem interpretLines_lines_append (first second : Text) (draft : Draft) :
    interpretLines surroundings nested place 1 (Text.lines (first ++ '\n' :: second)) draft =
      (interpretLines surroundings nested place 1 (Text.lines first) draft).andThen
        (interpretLines surroundings nested place (1 + (1 + first.count '\n'))
          (Text.lines second)) := by
  rw [Text.lines_append, interpretLines_append, ← interpretLines_linesOfPieces, ← Text.lines,
    List.length_map, Text.splitAll_length]

end SshConfig
