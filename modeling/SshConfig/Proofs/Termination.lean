import SshConfig.Proofs.Correspondence
import SshConfig.Proofs.Stack

namespace SshConfig

/-! Every run comes to an end, with the outcome of the interpretation.

A text is done with when its lines and the files that they include are, and a file lies one level
deeper than the text that includes it.  So the induction is on the levels that are left, then on
the lines that are left, and then on the arguments that are left of one of them.
-/

namespace Stack

/-- How the files are interpreted that the innermost text includes. -/
def nested (surroundings : Surroundings) (stack : Stack) : Option Interpretation :=
  included surroundings (includeLimit - stack.innermost.depth.toNat)

/-- The outcome of what is left of the innermost text. -/
def outcome (surroundings : Surroundings) (stack : Stack) : Outcome :=
  ((includeFiles surroundings (stack.nested surroundings) stack.innermost.place
      stack.innermost.arguments stack.draft).within (.line stack.innermost.number)).andThen
    (interpretLines surroundings (stack.nested surroundings) stack.innermost.place
      (stack.innermost.number + 1) stack.innermost.lines)

/-- Whether the last stack has come to the end of the innermost text of the other one, with the
given outcome. -/
structure Ended (stack last : Stack) (outcome : Outcome) : Prop where
  draft : last.draft = outcome.draft
  failure : last.failure = outcome.failure
  place : last.innermost.place = stack.innermost.place
  enclosing : last.enclosing = stack.enclosing
  nothingLeft : outcome.failure = none →
    last.innermost.arguments = [] ∧ last.innermost.lines = []

def EndsWith (surroundings : Surroundings) (stack : Stack) (outcome : Outcome) : Prop :=
  ∃ last, RunsTo surroundings stack last ∧ Ended stack last outcome

variable {surroundings : Surroundings} {stack last : Stack} {outcome : Outcome}

theorem EndsWith.of_runsTo {next : Stack} (runs : RunsTo surroundings stack next)
    (place : next.innermost.place = stack.innermost.place)
    (enclosing : next.enclosing = stack.enclosing)
    (ends : next.EndsWith surroundings outcome) : stack.EndsWith surroundings outcome := by
  obtain ⟨last, onward, ended⟩ := ends
  refine ⟨last, runs.trans onward, ?_⟩
  exact { ended with
    place := ended.place.trans place
    enclosing := ended.enclosing.trans enclosing }

theorem EndsWith.of_failure {failure : Failure} (failed : stack.failure = some failure) :
    stack.EndsWith surroundings ⟨stack.draft, some failure⟩ :=
  ⟨stack, .refl, rfl, failed, rfl, rfl, by simp⟩

theorem Ended.advance (ended : Ended stack last outcome) :
    last.advance surroundings = last.finish := by
  cases failed : last.failure with
  | some failure => simp only [Stack.advance, failed]
  | none =>
      obtain ⟨noArgument, noLine⟩ := ended.nothingLeft (ended.failure.symm.trans failed)
      simp only [Stack.advance, failed, noArgument, noLine]

def afterFile (stack : Stack) (rest : List Text) (file : Outcome) (asked : List Path) : Stack :=
  { (stack.including rest).holding file.draft with
    failure := file.failure.map (Failure.within (.line stack.innermost.number)), asked }

theorem Ended.advance_of_file {inner : Outcome} {depth : UInt8} {path : Path} {text : Text}
    {rest : List Text} {asked : List Path}
    (ended : Ended ({ stack.including rest with asked }.enter depth path text) last inner) :
    last.advance surroundings =
      .going (stack.afterFile rest (inner.leaving path stack.draft) last.asked) := by
  rw [ended.advance]
  rcases last with ⟨config, failure, innermost, enclosing, lastAsked⟩
  rcases inner with ⟨draft, failed⟩
  obtain ⟨sameDraft, sameFailure, samePlace, sameEnclosing, -⟩ := ended
  cases sameDraft
  cases sameFailure
  cases sameEnclosing
  cases failure with
  | none => rfl
  | some failure =>
      have placed : innermost.place = .ofFile path := samePlace
      simp only [finish, placed]
      rfl

/-- Whether every file that the innermost text of a stack may include is done with at some time. -/
def FilesEnd (surroundings : Surroundings) (stack : Stack) : Prop :=
  stack.innermost.depth.toNat < includeLimit → ∀ inner : Stack, inner.failure = none →
    inner.innermost.depth.toNat = stack.innermost.depth.toNat + 1 →
    inner.EndsWith surroundings (inner.outcome surroundings)

theorem outcome_enter {levels : Nat} {depth : UInt8} {path : Path} {text : Text}
    (left : includeLimit - depth.toNat = levels) :
    (stack.enter depth path text).outcome surroundings =
      interpret surroundings levels (.ofFile path) text stack.draft := by
  rw [interpret_eq, ← left]
  rfl

theorem runsTo_afterFile {argument : Text} {rest : List Text}
    (filesEnd : stack.FilesEnd surroundings) (unfailed : stack.failure = none)
    (left : stack.innermost.arguments = argument :: rest) :
    ∃ asked, RunsTo surroundings stack (stack.afterFile rest
      (includeFile surroundings (stack.nested surroundings) stack.innermost.place argument
        stack.draft) asked) := by
  have first : stack.advance surroundings =
      (stack.including rest).beginFile surroundings argument := advance_of_argument unfailed left
  cases found : includedPath surroundings.home stack.innermost.place.directory argument with
  | error cause =>
      refine ⟨stack.asked, .single ?_⟩
      simp only [first, beginFile, including, includeFile, found]
      rfl
  | ok path =>
      by_cases shallow : stack.innermost.depth.toNat < includeLimit
      · obtain ⟨depth, counted, deeper⟩ := nextDepth?_of_lt shallow
        obtain ⟨levels, more⟩ : ∃ levels, includeLimit - stack.innermost.depth.toNat = levels + 1 :=
          ⟨includeLimit - stack.innermost.depth.toNat - 1, by omega⟩
        cases readable : surroundings.files.text path with
        | error reason =>
            refine ⟨path :: stack.asked, .single ?_⟩
            simp only [first, beginFile, including, includeFile, found, if_pos shallow, readable,
              nested, more, included]
            rfl
        | ok text =>
            -- the file is gone into, read to its end, and come back from
            let asking : Stack := { stack.including rest with asked := path :: stack.asked }
            have begun : stack.advance surroundings = .going (asking.enter depth path text) := by
              simp only [first, beginFile, including, found, if_pos shallow, readable, counted]
              rfl
            have levelsLeft : includeLimit - depth.toNat = levels := by omega
            obtain ⟨last, runs, ended⟩ :=
              filesEnd shallow (asking.enter depth path text) unfailed deeper
            rw [outcome_enter levelsLeft] at ended
            refine ⟨last.asked, .head begun (runs.tail ?_)⟩
            rw [nested, more, included, includeFile_eq_leaving stack.draft found readable]
            exact ended.advance_of_file
      · have deep : includeLimit ≤ (stack.including rest).innermost.depth.toNat :=
          Nat.le_of_not_lt shallow
        have noLevel : includeLimit - stack.innermost.depth.toNat = 0 := by omega
        refine ⟨stack.asked, .single ?_⟩
        rw [first, beginFile_of_deep deep]
        simp only [refusal, including, includeFile, found, nested, noLevel, included]
        rfl

/-- What is left to do after the line that was begun last has been carried out so. -/
def outcomeAfter (surroundings : Surroundings) (stack : Stack) (line : Outcome) : Outcome :=
  (line.within (.line stack.innermost.number)).andThen
    (interpretLines surroundings (stack.nested surroundings) stack.innermost.place
      (stack.innermost.number + 1) stack.innermost.lines)

theorem outcome_of_noArgument (noArgument : stack.innermost.arguments = []) :
    stack.outcome surroundings = stack.outcomeAfter surroundings { draft := stack.draft } := by
  rw [Stack.outcome, noArgument]
  rfl

/-- Whether a stack goes on to the outcome, or has come to it by a failure. -/
def ComesTo (surroundings : Surroundings) (stack : Stack) (outcome : Outcome) : Prop :=
  (stack.failure = none ∧ stack.outcome surroundings = outcome) ∨
    ∃ failure, stack.failure = some failure ∧ outcome = ⟨stack.draft, some failure⟩

theorem afterFile_comesTo {argument : Text} {rest : List Text} (asked : List Path)
    (left : stack.innermost.arguments = argument :: rest) :
    (stack.afterFile rest (includeFile surroundings (stack.nested surroundings)
      stack.innermost.place argument stack.draft) asked).ComesTo surroundings
      (stack.outcome surroundings) := by
  rw [Stack.outcome, left, includeFiles]
  generalize includeFile surroundings (stack.nested surroundings) stack.innermost.place argument
    stack.draft = file
  rcases file with ⟨draft, _ | failure⟩
  · exact .inl ⟨rfl, rfl⟩
  · exact .inr ⟨_, rfl, rfl⟩

theorem request_comesTo (unfailed : stack.failure = none)
    (noArgument : stack.innermost.arguments = []) (directive : Directive) :
    (stack.request (.ok (some directive))).ComesTo surroundings
      (stack.outcomeAfter surroundings (carryOut surroundings (stack.nested surroundings)
        stack.innermost.place stack.innermost.number directive stack.draft)) := by
  cases directive with
  | header header => exact .inl ⟨unfailed, outcome_of_noArgument noArgument⟩
  | setting setting =>
      simp only [request, carryOut]
      cases stack.draft.set setting with
      | error cause => exact .inr ⟨_, rfl, rfl⟩
      | ok draft => exact .inl ⟨unfailed, outcome_of_noArgument noArgument⟩
  | inclusion arguments => exact .inl ⟨unfailed, rfl⟩

theorem beginLine_comesTo {line : Text} {rest : List Text} (unfailed : stack.failure = none)
    (noArgument : stack.innermost.arguments = []) (left : stack.innermost.lines = line :: rest) :
    (stack.beginLine line rest).ComesTo surroundings (stack.outcome surroundings) := by
  let begun : Stack := { stack with innermost :=
    { stack.innermost with number := stack.innermost.number + 1, lines := rest } }
  have same : stack.outcome surroundings = begun.outcomeAfter surroundings
      (interpretLine surroundings (stack.nested surroundings) stack.innermost.place
        (stack.innermost.number + 1) line stack.draft) := by
    rw [Stack.outcome, noArgument, left]
    rfl
  rw [same, interpretLine_eq, beginLine]
  cases Directive.ofLine line with
  | error cause => exact .inr ⟨_, rfl, rfl⟩
  | ok request =>
      cases request with
      | none => exact .inl ⟨unfailed, outcome_of_noArgument noArgument⟩
      | some directive =>
          have unfailedStill : begun.failure = none := unfailed
          exact request_comesTo unfailedStill noArgument directive

theorem EndsWith.of_comesTo {next : Stack} (runs : RunsTo surroundings stack next)
    (place : next.innermost.place = stack.innermost.place)
    (enclosing : next.enclosing = stack.enclosing)
    (comes : next.ComesTo surroundings outcome)
    (onward : next.failure = none → next.EndsWith surroundings (next.outcome surroundings)) :
    stack.EndsWith surroundings outcome := by
  rcases comes with ⟨unfailed, same⟩ | ⟨failure, failed, same⟩
  · rw [same] at onward
    exact .of_runsTo runs place enclosing (onward unfailed)
  · rw [same]
    exact .of_runsTo runs place enclosing (.of_failure failed)

/-- What is left is done where it is done as soon as no argument is left. -/
theorem endsWith_of_arguments {lines : List Text}
    (noArgument : ∀ stack : Stack, stack.FilesEnd surroundings → stack.failure = none →
      stack.innermost.lines = lines → stack.innermost.arguments = [] →
      stack.EndsWith surroundings (stack.outcome surroundings))
    (filesEnd : stack.FilesEnd surroundings) (unfailed : stack.failure = none)
    (left : stack.innermost.lines = lines) :
    stack.EndsWith surroundings (stack.outcome surroundings) := by
  induction arguments : stack.innermost.arguments generalizing stack with
  | nil => exact noArgument stack filesEnd unfailed left arguments
  | cons argument rest ih =>
      obtain ⟨asked, runs⟩ := runsTo_afterFile filesEnd unfailed arguments
      exact .of_comesTo runs rfl rfl (afterFile_comesTo asked arguments)
        fun unfailedStill => ih filesEnd unfailedStill left rfl

theorem endsWith_of_filesEnd (filesEnd : stack.FilesEnd surroundings)
    (unfailed : stack.failure = none) :
    stack.EndsWith surroundings (stack.outcome surroundings) := by
  induction left : stack.innermost.lines generalizing stack with
  | nil =>
      refine endsWith_of_arguments ?_ filesEnd unfailed left
      intro stack filesEnd unfailed noLine noArgument
      refine ⟨stack, .refl, ?_, ?_, rfl, rfl, fun _ => ⟨noArgument, noLine⟩⟩
      · rw [outcome_of_noArgument noArgument, outcomeAfter, noLine]
        rfl
      · rw [outcome_of_noArgument noArgument, outcomeAfter, noLine]
        exact unfailed
  | cons line rest ih =>
      refine endsWith_of_arguments ?_ filesEnd unfailed left
      intro stack filesEnd unfailed left noArgument
      have same : SameText _ (stack.beginLine line rest) := request_sameText _
      have begun : stack.advance surroundings = .going (stack.beginLine line rest) := by
        simp only [Stack.advance, unfailed, noArgument, left]
      have filesEndStill : (stack.beginLine line rest).FilesEnd surroundings := by
        unfold FilesEnd
        rw [same.depth]
        exact filesEnd
      exact .of_comesTo (.single begun) same.place same.enclosing
        (beginLine_comesTo unfailed noArgument left)
        fun unfailedStill => ih filesEndStill unfailedStill same.lines

/-- A text that is being read is done with at some time, with the outcome that its interpretation
has. -/
theorem endsWith_outcome (surroundings : Surroundings) (unfailed : stack.failure = none) :
    stack.EndsWith surroundings (stack.outcome surroundings) := by
  -- a file lies one level deeper, and there are no files below the last level
  induction left : includeLimit - stack.innermost.depth.toNat using Nat.strong_induction_on
    generalizing stack with
  | _ levels ih =>
      have filesEnd : stack.FilesEnd surroundings := by
        intro shallow inner innerUnfailed deeper
        have less : includeLimit - inner.innermost.depth.toNat < levels := by omega
        exact ih _ less innerUnfailed rfl
      exact endsWith_of_filesEnd filesEnd unfailed

theorem start_outcome (place : Place) (depth : UInt8) (text : Text) (draft : Draft) :
    (start place depth text draft).outcome surroundings =
      interpretAt surroundings depth.toNat place text draft := by
  rw [interpretAt, interpret_eq]
  rfl

theorem start_halts (place : Place) (depth : UInt8) (text : Text) (draft : Draft) :
    ∃ last, RunsTo surroundings (start place depth text draft) last ∧
      last.advance surroundings =
        .halted (interpretAt surroundings depth.toNat place text draft) := by
  have unfailed : (start place depth text draft).failure = none := rfl
  obtain ⟨last, runs, ended⟩ := endsWith_outcome surroundings unfailed
  rw [start_outcome] at ended
  refine ⟨last, runs, ?_⟩
  have alone : last.enclosing = [] := ended.enclosing
  simp only [ended.advance, finish, alone, ended.draft, ended.failure]

/-- What a run has come to is on the way to where the run ends, as a stack has one way only to go
on. -/
theorem RunsTo.onward {first : Stack} (runs : RunsTo surroundings first stack)
    (toLast : RunsTo surroundings first last)
    (halts : last.advance surroundings = .halted outcome) : RunsTo surroundings stack last := by
  have unique : Relator.RightUnique fun stack next : Stack =>
      stack.advance surroundings = .going next := by
    intro stack next other advanced advancedToo
    exact Progress.going.inj (advanced.symm.trans advancedToo)
  rcases runs.total_of_right_unique unique toLast with onward | back
  · exact onward
  · rcases back.cases_head with same | ⟨next, advanced, -⟩
    · rw [same]
    · cases halts.symm.trans advanced

/-- From every depth that a byte can hold, every run comes to an end and has the outcome of the
interpretation.  On the way the counter of depth never passes its end, every file lies deeper than
the text that includes it and no deeper than the limit, and from the limit on no file is asked
for, but every argument of an inclusion is refused. -/
theorem start_terminates (surroundings : Surroundings) (place : Place) (depth : UInt8)
    (text : Text) (draft : Draft) :
    (∃ last, last.advance surroundings =
        .halted (interpretAt surroundings depth.toNat place text draft) ∧
      ∀ stack, RunsTo surroundings (start place depth text draft) stack →
        RunsTo surroundings stack last) ∧
    ∀ stack, RunsTo surroundings (start place depth text draft) stack →
      stack.advance surroundings ≠ .overflow ∧ stack.Deepening ∧
      (16 ≤ stack.innermost.depth →
        (∀ next, stack.advance surroundings = .going next → next.asked = stack.asked) ∧
        ∀ argument rest, stack.failure = none → stack.innermost.arguments = argument :: rest →
          stack.advance surroundings = .going ((stack.including rest).failing
            (refusal surroundings stack.innermost.place argument))) := by
  refine ⟨?_, fun stack runs => ⟨advance_ne_overflow, ?_, ?_⟩⟩
  · obtain ⟨last, toLast, halts⟩ := start_halts place depth text draft
    exact ⟨last, halts, fun stack runs => runs.onward toLast halts⟩
  · exact RunsTo.deepening runs (.singleton _)
  · intro limit
    have deep : includeLimit ≤ stack.innermost.depth.toNat := UInt8.le_iff_toNat_le.mp limit
    refine ⟨fun next advanced => advance_asked_of_deep deep advanced, ?_⟩
    intro argument rest unfailed left
    rw [advance_of_argument unfailed left]
    exact beginFile_of_deep deep

/-- A file on the last level, in which the run comes to an inclusion. -/
theorem start_terminates_limit :
    let surroundings : Surroundings :=
      ⟨fun _ => .ok ("Include i".toList.map Char.toUInt8), {}⟩
    let begun := start ⟨['s'], "/c".toList⟩ 15 "Include i".toList {}
    ∃ stack last, RunsTo surroundings begun stack ∧
      stack.innermost.depth = 16 ∧ stack.asked = ["/c/i".toList] ∧
      stack.failure = none ∧ stack.innermost.arguments = [['i']] ∧
      stack.advance surroundings = .going ((stack.including []).failing .includeDepth) ∧
      RunsTo surroundings stack last ∧
      last.advance surroundings = .halted
        ⟨{}, some ⟨[.line 1, .file "/c/i".toList, .line 1], .includeDepth⟩⟩ := by
  intro surroundings begun
  let first := begun.beginLine "Include i".toList []
  let second := ({ first.including [] with asked := ["/c/i".toList] } : Stack).enter 16
    "/c/i".toList "Include i".toList
  let stack := second.beginLine "Include i".toList []
  have named : begun.advance surroundings = .going first := rfl
  have entered : first.advance surroundings = .going second := rfl
  have namedToo : second.advance surroundings = .going stack := rfl
  have runs : RunsTo surroundings begun stack :=
    .head named (.head entered (.single namedToo))
  obtain ⟨⟨last, halts, toLast⟩, others⟩ :=
    start_terminates surroundings ⟨['s'], "/c".toList⟩ 15 "Include i".toList {}
  obtain ⟨-, -, limited⟩ := others stack runs
  have refused := (limited (by decide)).2 ['i'] [] rfl rfl
  exact ⟨stack, last, runs, rfl, rfl, rfl, rfl, refused, toLast stack runs, halts⟩

end Stack

end SshConfig
