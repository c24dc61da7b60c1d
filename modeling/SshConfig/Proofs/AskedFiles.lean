import SshConfig.Journal
import SshConfig.Proofs.ByteLines

namespace SshConfig

/-! The files that parsing asks for.

The outcome depends on them only.  Which ones they are depends on what was read before, so two runs
are kept in step up to the first file that they find different.  A run that succeeds could read all
that it asked for, so it does not depend on what else there is.
-/

/-- The files that a journal tells of. -/
def askedIn (journal : Journal) : List Path :=
  journal.filterMap fun entry =>
    match entry.event with
    | .inclusion path => some path
    | .unknownKeyword => none

/-- The files that parsing the file at a path asks for, in the order in which it does. -/
def askedFiles (surroundings : Surroundings) (path : Path) : List Path :=
  path :: askedIn (fileJournal surroundings path)

theorem askedIn_append (first second : Journal) :
    askedIn (first ++ second) = askedIn first ++ askedIn second :=
  List.filterMap_append

theorem askedIn_within (layer : Layer) (journal : Journal) :
    askedIn (journal.map (JournalEntry.within layer)) = askedIn journal := by
  rw [askedIn, List.filterMap_map]
  rfl

theorem askedIn_inclusion (path : Path) (journal : Journal) :
    askedIn ({ event := .inclusion path } :: journal) = path :: askedIn journal :=
  rfl

/-- A keyword other than an inclusion does not look at files. -/
theorem dispatch_others {surroundings : Surroundings} {others : FileSystem} {keyword : Keyword}
    (nested nestedToo : Option Interpretation) (place : Place) (number : Nat)
    (arguments : List Text) (draft : Draft) (other : keyword ≠ .inclusion) :
    dispatch { surroundings with files := others } nestedToo place number keyword arguments draft =
      dispatch surroundings nested place number keyword arguments draft := by
  unfold dispatch
  cases reads : Directive.read keyword arguments with
  | error cause => rfl
  | ok directive =>
      cases directive with
      | header header => rfl
      | setting setting => rfl
      | inclusion files =>
          cases Directive.read_eq_ok.mp reads
          exact absurd rfl other

/-- Whether a run, whose journal is kept, goes with other files as it goes with these if they are the
same where it asks for them, and can read all that it asks for if it succeeds. -/
structure Retraces (files others : FileSystem) (journal : Journal) (outcome other : Outcome) :
    Prop where
  same : (∀ path ∈ askedIn journal, others.text path = files.text path) → other = outcome
  readable : outcome.failure = none → ∀ path ∈ askedIn journal, ∃ text, files.text path = .ok text

namespace Retraces

variable {files others : FileSystem} {journal : Journal} {outcome other : Outcome}

theorem of_silent (silent : askedIn journal = []) (outcome : Outcome) :
    Retraces files others journal outcome outcome :=
  ⟨fun _ => rfl, by simp [silent]⟩

variable {later : Draft → Journal} {next last : Draft → Outcome}
  (rest : ∀ draft, Retraces files others (later draft) (next draft) (last draft))
include rest

theorem andThen (first : Retraces files others journal outcome other) :
    Retraces files others
      (journal ++
        match outcome.failure with
        | some _ => []
        | none => later outcome.draft)
      (outcome.andThen next) (other.andThen last) := by
  rcases outcome with ⟨draft, _ | failure⟩
  · constructor
    · intro agree
      rw [askedIn_append, List.forall_mem_append] at agree
      rw [first.same agree.1]
      exact (rest draft).same agree.2
    · intro succeeded
      rw [askedIn_append, List.forall_mem_append]
      exact ⟨first.readable rfl, (rest draft).readable succeeded⟩
  · constructor
    · intro agree
      rw [List.append_nil] at agree
      rw [first.same agree]
      rfl
    · intro succeeded
      cases succeeded

-- The journal ends where the outcome fails, before the layer is put around either.
theorem within_andThen (layer : Layer) (first : Retraces files others journal outcome other) :
    Retraces files others
      (journal.map (JournalEntry.within layer) ++
        match outcome.failure with
        | some _ => []
        | none => later outcome.draft)
      ((outcome.within layer).andThen next) ((other.within layer).andThen last) := by
  have inner : Retraces files others (journal.map (JournalEntry.within layer))
      (outcome.within layer) (other.within layer) := by
    refine ⟨fun agree => ?_, fun succeeded => ?_⟩
    · rw [askedIn_within] at agree
      rw [first.same agree]
    · rw [askedIn_within]
      exact first.readable (Option.map_eq_none_iff.mp succeeded)
  rcases outcome with ⟨draft, _ | failure⟩
  · exact inner.andThen rest
  · exact inner.andThen rest

end Retraces

/-- Whether included files are interpreted with other files as they are with these. -/
def RetracesNested (files others : FileSystem) (nested : Nested) (other : Interpretation) : Prop :=
  ∀ place text draft,
    Retraces files others (nested.tell place text draft) (nested.interpret place text draft)
      (other place text draft)

section

variable {surroundings : Surroundings} {others : FileSystem} {nested : Option Nested}
  {nestedToo : Option Interpretation}
  (inner : Option.Rel (RetracesNested surroundings.files others) nested nestedToo)
include inner

theorem includeFile_retraced (place : Place) (argument : Text) (draft : Draft) :
    Retraces surroundings.files others
      (includeFileJournal surroundings nested place argument draft)
      (includeFile surroundings (nested.map Nested.interpret) place argument draft)
      (includeFile { surroundings with files := others } nestedToo place argument draft) := by
  cases found : includedPath surroundings.home place.directory argument with
  | error cause =>
      simp only [includeFile, includeFileJournal, found]
      exact .of_silent rfl _
  | ok path =>
      cases inner with
      | none =>
          simp only [includeFile, includeFileJournal, found, Option.map_none]
          exact .of_silent rfl _
      | @some nested other same =>
          simp only [includeFile, includeFileJournal, found, Option.map_some]
          cases readable : surroundings.files.text path with
          | error reason =>
              constructor
              · intro agree
                have missing : others.text path = .error reason :=
                  (agree path (.head _)).trans readable
                simp only [missing]
              · intro succeeded
                cases succeeded
          | ok text =>
              have included := same (.ofFile path) text draft
              constructor
              · intro agree
                rw [askedIn_inclusion, askedIn_within, List.forall_mem_cons] at agree
                have read : others.text path = .ok text := agree.1.trans readable
                simp only [read, included.same agree.2]
              · intro succeeded
                rw [askedIn_inclusion, askedIn_within, List.forall_mem_cons]
                refine ⟨⟨text, readable⟩, included.readable ?_⟩
                cases failed : (nested.interpret (.ofFile path) text draft).failure with
                | none => rfl
                | some failure => simp [failed] at succeeded

theorem includeFiles_retraced (place : Place) (arguments : List Text) (draft : Draft) :
    Retraces surroundings.files others
      (includeFilesJournal surroundings nested place arguments draft)
      (includeFiles surroundings (nested.map Nested.interpret) place arguments draft)
      (includeFiles { surroundings with files := others } nestedToo place arguments draft) := by
  induction arguments generalizing draft with
  | nil => exact .of_silent rfl _
  | cons argument rest ih =>
      exact .andThen ih (includeFile_retraced inner place argument draft)

theorem interpretLine_retraced (place : Place) (number : Nat) (line : Text) (draft : Draft) :
    Retraces surroundings.files others (lineJournal surroundings nested place line draft)
      (interpretLine surroundings (nested.map Nested.interpret) place number line draft)
      (interpretLine { surroundings with files := others } nestedToo place number line draft) := by
  unfold lineJournal interpretLine
  cases Line.read line with
  | error fault => exact .of_silent rfl _
  | ok line =>
      cases line with
      | empty => exact .of_silent rfl _
      | unknown keyword => exact .of_silent rfl _
      | directive keyword arguments =>
          by_cases inclusion : keyword = .inclusion
          · subst inclusion
            exact includeFiles_retraced inner place arguments draft
          · have same : dispatch { surroundings with files := others } nestedToo place number
                  keyword arguments draft =
                dispatch surroundings (nested.map Nested.interpret) place number keyword arguments
                  draft :=
              dispatch_others _ _ place number arguments draft inclusion
            simp only [same]
            cases keyword with
            | inclusion => exact absurd rfl inclusion
            | _ => exact .of_silent rfl _

theorem interpretLines_retraced (place : Place) (number : Nat) (lines : List Text) (draft : Draft) :
    Retraces surroundings.files others (linesJournal surroundings nested place number lines draft)
      (interpretLines surroundings (nested.map Nested.interpret) place number lines draft)
      (interpretLines { surroundings with files := others } nestedToo place number lines
        draft) := by
  induction lines generalizing number draft with
  | nil => exact .of_silent rfl _
  | cons line rest ih =>
      exact .within_andThen (ih (number + 1)) (.line number)
        (interpretLine_retraced inner place number line draft)

end

theorem interpret_retraced (surroundings : Surroundings) (others : FileSystem) (levels : Nat) :
    RetracesNested surroundings.files others
      ⟨interpret surroundings levels, journal surroundings levels⟩
      (interpret { surroundings with files := others } levels) := by
  induction levels with
  | zero =>
      intro place text draft
      have inner : Option.Rel (RetracesNested surroundings.files others) none none := .none
      exact interpretLines_retraced inner place 1 (Text.lines text) draft
  | succ levels ih =>
      intro place text draft
      exact interpretLines_retraced (.some ih) place 1 (Text.lines text) draft

/-- A file can be parsed if the text that is read from it can be interpreted. -/
theorem parseFile_eq_ok {surroundings : Surroundings} {path : Path} {config : Config} :
    parseFile surroundings path = .ok config ↔
      ∃ text, surroundings.files.text path = .ok text ∧
        parseAt surroundings (.ofFile path) text = .ok config := by
  unfold parseFile
  cases surroundings.files.text path <;> simp

theorem parseFile_of_agreeing (surroundings : Surroundings) {others : FileSystem} {path : Path}
    (agree : ∀ asked ∈ askedFiles surroundings path,
      others.text asked = surroundings.files.text asked) :
    parseFile { surroundings with files := others } path = parseFile surroundings path := by
  obtain ⟨here, later⟩ := List.forall_mem_cons.mp agree
  unfold parseFile
  simp only [here]
  unfold fileJournal at later
  cases readable : surroundings.files.text path with
  | error reason => rfl
  | ok text =>
      rw [readable] at later
      have same := (interpret_retraced surroundings others includeLimit (.ofFile path) text
        { config := { source := path } }).same later
      simp only [parseAt, interpretAt, Place.ofFile] at same ⊢
      simp only [Nat.sub_zero, same]

theorem readable_of_parseFile {surroundings : Surroundings} {path : Path} {config : Config}
    (parsed : parseFile surroundings path = .ok config) :
    ∀ asked ∈ askedFiles surroundings path, ∃ text, surroundings.files.text asked = .ok text := by
  obtain ⟨text, readable, interpreted⟩ := parseFile_eq_ok.mp parsed
  obtain ⟨draft, ran, -⟩ := parseAt_eq_ok.mp interpreted
  have retraced := interpret_retraced surroundings surroundings.files includeLimit
    (.ofFile path) text { config := { source := path } }
  have told : fileJournal surroundings path =
      journal surroundings includeLimit (.ofFile path) text { config := { source := path } } := by
    simp only [fileJournal, readable]
  rw [askedFiles, told]
  refine List.forall_mem_cons.mpr ⟨⟨text, readable⟩, retraced.readable ?_⟩
  exact congrArg Outcome.failure ran

/-- Parsing that succeeds goes on to do so, with the same configuration, when there are more files.
What parsing gives in any case depends only on the files that it asks for. -/
theorem parseFile_askedFiles (files others : FileSystem) (home : Homes) (path : Path) :
    ((∀ asked content, files asked = .ok content → others asked = .ok content) →
        ∀ config, parseFile ⟨files, home⟩ path = .ok config →
          parseFile ⟨others, home⟩ path = .ok config) ∧
      ((∀ asked ∈ askedFiles ⟨files, home⟩ path, others asked = files asked) →
        parseFile ⟨others, home⟩ path = parseFile ⟨files, home⟩ path) := by
  constructor
  · intro more config parsed
    rw [← parsed]
    refine parseFile_of_agreeing ⟨files, home⟩ fun asked member => ?_
    obtain ⟨text, readable⟩ := readable_of_parseFile parsed asked member
    obtain ⟨content, found, -⟩ := map_eq_ok.mp readable
    rw [FileSystem.text, FileSystem.text, found, more asked content found]
  · intro agree
    refine parseFile_of_agreeing ⟨files, home⟩ fun asked member => ?_
    rw [FileSystem.text, FileSystem.text, agree asked member]

/-- A file is missing that another file includes, and then no further file is asked for. -/
theorem parseFile_askedFiles_missing :
    let files : FileSystem := fun path =>
      if path = "/c".toList then .ok (Text.encode "Include /i".toList)
      else if path = "/d".toList then .ok (Text.encode "Include /i /m /n".toList)
      else if path = "/i".toList then .ok (Text.encode "Host a".toList)
      else .error .notFound
    let others : FileSystem := fun path =>
      if path = "/m".toList then .error .notFound
      else match files path with
        | .ok content => .ok content
        | .error _ => .ok []
    let config : Config :=
      { blocks := [⟨.host [⟨['a'], false⟩], ⟨"/i".toList, 1⟩, {}⟩], source := "/c".toList }
    let failure : Failure :=
      ⟨[.line 1], .unreadable .included "/m".toList (some "/m".toList) .notFound⟩
    (parseFile ⟨files, {}⟩ "/c".toList = .ok config ∧
        parseFile ⟨others, {}⟩ "/c".toList = .ok config) ∧
      askedFiles ⟨files, {}⟩ "/d".toList = ["/d".toList, "/i".toList, "/m".toList] ∧
      parseFile ⟨files, {}⟩ "/d".toList = .error failure ∧
      parseFile ⟨others, {}⟩ "/d".toList = .error failure := by
  intro files others config failure
  have parsed : parseFile ⟨files, {}⟩ "/c".toList = .ok config := rfl
  have failed : parseFile ⟨files, {}⟩ "/d".toList = .error failure := rfl
  have asked : askedFiles ⟨files, {}⟩ "/d".toList = ["/d".toList, "/i".toList, "/m".toList] := rfl
  have more : ∀ path content, files path = .ok content → others path = .ok content := by
    intro path content found
    have other : path ≠ "/m".toList := by
      rintro rfl
      cases found
    simp only [others, if_neg other, found]
  have agree : ∀ path ∈ askedFiles ⟨files, {}⟩ "/d".toList, others path = files path := by
    rw [asked]
    simp only [List.forall_mem_cons]
    exact ⟨rfl, rfl, rfl, by simp⟩
  refine ⟨⟨parsed, ?_⟩, asked, failed, ?_⟩
  · exact (parseFile_askedFiles files others {} "/c".toList).1 more config parsed
  · rw [(parseFile_askedFiles files others {} "/d".toList).2 agree, failed]

end SshConfig
