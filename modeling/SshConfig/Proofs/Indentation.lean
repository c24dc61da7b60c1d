import SshConfig.Proofs.ByteLines
import SshConfig.Proofs.KeywordLine

namespace SshConfig

/-! White space at the ends of lines.

It makes no difference in any file, whatever else stands on the line and whether or not the line is
valid.  In particular there may be carriage returns before the line feeds.
-/

/-- Whether a line is another one with white space at its ends. -/
def SpacedLine (line spaced : Bytes) : Prop :=
  ∃ before after : Text, Text.AllBlank before ∧ '\n' ∉ before ∧ Text.AllBlank after ∧ '\n' ∉ after ∧
    spaced = Text.encode before ++ line ++ Text.encode after

/-- What is read in the place of a file when its lines get white space at their ends. -/
inductive SpacedFile : Except ReadFailure Bytes → Except ReadFailure Bytes → Prop where
  | unreadable : SpacedFile (.error reason) (.error reason)
  | readable (oneLine : ∀ line ∈ lines, 10 ∉ line) (same : List.Forall₂ SpacedLine lines spaced) :
      SpacedFile (.ok (Bytes.ofLines lines)) (.ok (Bytes.ofLines spaced))

namespace SpacedLine

variable {line spaced : Bytes}

theorem refl (line : Bytes) : SpacedLine line line :=
  ⟨[], [], Text.allBlank_nil, List.not_mem_nil, Text.allBlank_nil, List.not_mem_nil,
    by simp [Text.encode]⟩

theorem ofLine_eq (same : SpacedLine line spaced) :
    Directive.ofLine (Text.decode line) = Directive.ofLine (Text.decode spaced) := by
  obtain ⟨before, after, first, -, last, -, rfl⟩ := same
  have trimmed : Text.trim (before ++ Text.decode line ++ after) =
      Text.trim (Text.decode line) := by
    rw [Text.trim_append_blank _ last, Text.trim, Text.trimStart_append_of_blank first, Text.trim]
  rw [Text.decode_surrounded first last, Directive.ofLine, Directive.ofLine,
    Line.read_of_trim_eq trimmed]

theorem feed_not_mem (same : SpacedLine line spaced) (noFeed : '\n' ∉ Text.decode line) :
    '\n' ∉ Text.decode spaced := by
  obtain ⟨before, after, first, firstNoFeed, last, lastNoFeed, rfl⟩ := same
  rw [Text.decode_surrounded first last]
  simp [firstNoFeed, noFeed, lastNoFeed]

end SpacedLine

theorem feed_not_mem_decode_spaced {lines spaced : List Bytes}
    (same : List.Forall₂ SpacedLine lines spaced)
    (noFeeds : ∀ line ∈ lines, '\n' ∉ Text.decode line) :
    ∀ line ∈ spaced, '\n' ∉ Text.decode line := by
  induction same with
  | nil => exact noFeeds
  | cons first _ ih =>
      obtain ⟨here, later⟩ := List.forall_mem_cons.mp noFeeds
      exact List.forall_mem_cons.mpr ⟨first.feed_not_mem here, ih later⟩

namespace SpacedFile

theorem refl (read : Except ReadFailure Bytes) : SpacedFile read read := by
  cases read with
  | error reason => exact .unreadable
  | ok content =>
      obtain ⟨lines, -, oneLine, rfl⟩ := content.exists_ofLines
      exact .readable oneLine (List.forall₂_same.mpr fun line _ => SpacedLine.refl line)

theorem asksAlike {read other : Except ReadFailure Bytes} (same : SpacedFile read other) :
    AsksAlike (fun number => number) (read.map Text.decode) (other.map Text.decode) := by
  cases same with
  | unreadable => exact .unreadable
  | @readable lines spaced oneLine same =>
      have noFeeds := Text.feed_not_mem_decode_lines oneLine
      have asks : requests (Text.decode (Bytes.ofLines spaced)) =
          requests (Text.decode (Bytes.ofLines lines)) := by
        rw [requests_decode_ofLines noFeeds,
          requests_decode_ofLines (feed_not_mem_decode_spaced same noFeeds)]
        refine (requestsFrom_congr ?_ 1).symm
        rw [List.forall₂_map_left_iff, List.forall₂_map_right_iff]
        exact same.imp fun _ _ => SpacedLine.ofLine_eq
      have alike := AsksAlike.refl (.ok (Text.decode (Bytes.ofLines lines)))
      cases alike with
      | readable renumbered => exact .readable (asks.trans renumbered)

end SpacedFile

/-- The file in which a carriage return goes before every line feed. -/
def Bytes.withReturns (content : Bytes) : Bytes :=
  content.flatMap fun byte => if byte = 10 then [13, 10] else [byte]

theorem Bytes.withReturns_of_not_mem {line : Bytes} (noFeed : 10 ∉ line) :
    line.withReturns = line := by
  induction line with
  | nil => rfl
  | cons byte rest ih =>
      obtain ⟨other, later⟩ : byte ≠ 10 ∧ 10 ∉ rest := by
        simpa [eq_comm] using noFeed
      have kept : withReturns rest = rest := ih later
      rw [withReturns, List.flatMap_cons, ← withReturns, kept, if_neg other]
      rfl

theorem spacedLine_return (line : Bytes) : SpacedLine line (line ++ [13]) :=
  ⟨[], ['\r'], Text.allBlank_nil, List.not_mem_nil, List.all_eq_true.mp rfl, by decide, rfl⟩

theorem exists_spaced_withReturns {lines : List Bytes} (oneLine : ∀ line ∈ lines, 10 ∉ line) :
    ∃ spaced, List.Forall₂ SpacedLine lines spaced ∧
      (Bytes.ofLines lines).withReturns = Bytes.ofLines spaced := by
  induction lines with
  | nil => exact ⟨[], .nil, rfl⟩
  | cons line rest ih =>
      obtain ⟨noFeed, later⟩ := List.forall_mem_cons.mp oneLine
      obtain ⟨spaced, same, returned⟩ := ih later
      cases same with
      | nil =>
          refine ⟨[line], .cons (SpacedLine.refl line) .nil, ?_⟩
          rw [Bytes.ofLines_singleton, Bytes.withReturns_of_not_mem noFeed]
      | @cons next spacedNext others spacedOthers first same =>
          refine ⟨(line ++ [13]) :: spacedNext :: spacedOthers,
            .cons (spacedLine_return line) (.cons first same), ?_⟩
          have parts : (line ++ 10 :: Bytes.ofLines (next :: others)).withReturns =
              line.withReturns ++ 13 :: 10 :: (Bytes.ofLines (next :: others)).withReturns :=
            List.flatMap_append
          rw [Bytes.ofLines_cons_cons, Bytes.ofLines_cons_cons, parts,
            Bytes.withReturns_of_not_mem noFeed, returned, List.append_assoc]
          rfl

theorem SpacedFile.withReturns (content : Bytes) :
    SpacedFile (.ok content) (.ok content.withReturns) := by
  obtain ⟨lines, -, oneLine, rfl⟩ := content.exists_ofLines
  obtain ⟨spaced, same, returned⟩ := exists_spaced_withReturns oneLine
  rw [returned]
  exact .readable oneLine same

/-- White space at the ends of lines makes no difference in any of the files, in whatever way they
are included and whether or not they can be parsed. -/
theorem parseFile_spaced {files others : FileSystem}
    (same : ∀ path, SpacedFile (files path) (others path)) (home : Homes) (top : Path) :
    parseFile ⟨others, home⟩ top = parseFile ⟨files, home⟩ top := by
  let surroundings : Surroundings := ⟨files, home⟩
  have alike (path : Path) :
      AsksAlike (fun number => number) (surroundings.files.text path) (others.text path) :=
    (same path).asksAlike
  have renumbered : parseFile ⟨others, home⟩ top =
      renumberResult (fun _ number => number) top (parseFile ⟨files, home⟩ top) :=
    parseFile_renumbered alike top
  rw [renumbered, renumberResult_same]

/-- The line that fails ends in a space, which could be part of what is between quotation marks. -/
theorem parseFile_spaced_unfinished :
    let content := Text.encode "Host a\nInclude /i".toList
    let files : FileSystem := fun path =>
      if path = "/c".toList then .ok content
      else if path = "/i".toList then .ok (Text.encode "User b\nUser \"c".toList)
      else .error .notFound
    let others : FileSystem := fun path =>
      if path = "/c".toList then .ok content.withReturns
      else if path = "/i".toList then .ok (Text.encode "\u00a0User b\r\n\tUser \"c ".toList)
      else .error .notFound
    (∀ path, SpacedFile (files path) (others path)) ∧
      parseFile ⟨files, {}⟩ "/c".toList =
        .error ⟨[.line 2, .file "/i".toList, .line 2], .line .unfinishedQuote⟩ ∧
      parseFile ⟨others, {}⟩ "/c".toList =
        .error ⟨[.line 2, .file "/i".toList, .line 2], .line .unfinishedQuote⟩ := by
  intro content files others
  have first : SpacedLine (Text.encode "User b".toList)
      (Text.encode "\u00a0User b\r".toList) :=
    ⟨['\u00a0'], ['\r'], List.all_eq_true.mp rfl, by decide, List.all_eq_true.mp rfl, by decide,
      rfl⟩
  have second : SpacedLine (Text.encode "User \"c".toList) (Text.encode "\tUser \"c ".toList) :=
    ⟨['\t'], [' '], List.all_eq_true.mp rfl, by decide, List.all_eq_true.mp rfl, by decide, rfl⟩
  have same (path : Path) : SpacedFile (files path) (others path) := by
    simp only [files, others]
    split
    · exact .withReturns content
    · split
      · exact .readable (by decide) (.cons first (.cons second .nil))
      · exact .refl _
  have failed : parseFile ⟨files, {}⟩ "/c".toList =
      .error ⟨[.line 2, .file "/i".toList, .line 2], .line .unfinishedQuote⟩ := rfl
  exact ⟨same, failed, (parseFile_spaced same {} "/c".toList).trans failed⟩

end SshConfig
