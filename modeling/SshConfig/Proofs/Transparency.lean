import SshConfig.Proofs.DepthGuard
import SshConfig.Proofs.Interruption
import SshConfig.Proofs.Quotation

namespace SshConfig

/-! A text that does nothing but include one file.

Such a text does what the file does.  The two are read for configurations with other names,
but the name of a configuration is never read; and the file is one level deeper in the text, but
that makes a difference to the deepest inclusion only.
-/

/-- The draft of a configuration with another name. -/
def Draft.renamed (source : Text) (draft : Draft) : Draft :=
  { draft with config := { draft.config with source } }

def Outcome.renamed (source : Text) (outcome : Outcome) : Outcome :=
  { outcome with draft := outcome.draft.renamed source }

theorem Draft.changeScope_renamed (source : Text) (draft : Draft) (change : Options → Options) :
    (draft.renamed source).changeScope change = (draft.changeScope change).renamed source := by
  have inScope : (draft.renamed source).scope = draft.scope := rfl
  unfold changeScope
  rw [inScope]
  split <;> rfl

theorem Draft.set_renamed (source : Text) (draft : Draft) (setting : Setting) :
    Outcome.ofResult (draft.renamed source) ((draft.renamed source).set setting) =
      (Outcome.ofResult draft (draft.set setting)).renamed source := by
  have inScope : (draft.renamed source).scope = draft.scope := rfl
  unfold set
  rw [inScope]
  split
  · rfl
  · rw [changeScope_renamed]
    rfl

theorem renamed_correspondence (source : Text) :
    Correspondence (fun draft other => draft.renamed source = other)
      (fun outcome other => outcome.renamed source = other) where
  done := by
    intro draft other same
    cases same
    rfl
  refused := by
    intro draft other cause same
    cases same
    rfl
  openBlock := by
    intro draft other header origin same
    cases same
    rfl
  set := by
    intro draft other setting same
    cases same
    exact (draft.set_renamed source setting).symm
  andThen := by
    intro left right next last same related
    cases same
    rcases left with ⟨draft, _ | failure⟩
    · exact related draft _ rfl
    · rfl
  within := by
    intro left right layer same
    cases same
    rfl
  leaving := by
    intro draft other left right path before same
    cases before
    cases same
    rcases left with ⟨after, _ | failure⟩ <;> rfl

theorem interpret_renamed (surroundings : Surroundings) (levels : Nat) (place : Place)
    (text source : Text) (draft : Draft) :
    interpret surroundings levels place text (draft.renamed source) =
      (interpret surroundings levels place text draft).renamed source := by
  have correspondence := renamed_correspondence source
  have related : (interpret surroundings levels place text draft).renamed source =
      interpret surroundings levels place text (draft.renamed source) :=
    correspondence.relates_interpret levels 0 (fun _ => correspondence.relates_includeFile_none)
      place text draft _ rfl
  exact related.symm

/-- The name that a draft's configuration has is the one that it began with. -/
theorem interpret_source (surroundings : Surroundings) (levels : Nat) (place : Place)
    (text : Text) (draft : Draft) :
    (interpret surroundings levels place text draft).draft.config.source =
      draft.config.source := by
  have same : draft.renamed draft.config.source = draft := rfl
  have kept := interpret_renamed surroundings levels place text draft.config.source draft
  rw [same] at kept
  rw [kept]
  rfl

variable {surroundings : Surroundings} {directory path : Path} {argument text : Text}

theorem interpretLines_singleton {nested : Option Interpretation} {place : Place} {number : Nat}
    {line : Text} {draft : Draft} :
    interpretLines surroundings nested place number [line] draft =
      (interpretLine surroundings nested place number line draft).within (.line number) :=
  Outcome.andThen_done _

theorem interpretLine_inclusionOf {nested : Option Interpretation} {place : Place} {number : Nat}
    {draft : Draft} :
    interpretLine surroundings nested place number (inclusionOf argument) draft =
      includeFile surroundings nested place argument draft := by
  rw [interpretLine, read_inclusionOf]
  exact Session.includeFiles_singleton

theorem parseText_inclusionOf (oneLine : '\n' ∉ argument)
    (found : includedPath surroundings.home directory argument = .ok path)
    (readable : surroundings.files.text path = .ok text) :
    parseText surroundings directory (inclusionOf argument) =
      let inner := interpret surroundings 15 (.ofFile path) text
        { config := { source := "<string>".toList } }
      match inner.failure with
      | none => .ok inner.draft.config
      | some failure => .error ((failure.within (.file path)).within (.line 1)) := by
  let place : Place := ⟨"<string>".toList, directory⟩
  let draft : Draft := { config := { source := "<string>".toList } }
  have whole : interpretAt surroundings 0 place (inclusionOf argument) draft =
      ((interpret surroundings 15 (.ofFile path) text draft).leaving path draft).within
        (.line 1) := by
    have begun : interpretAt surroundings 0 place (inclusionOf argument) draft =
        interpretLines surroundings (some (interpret surroundings 15)) place 1
          (Text.lines (inclusionOf argument)) draft := rfl
    rw [begun, lines_inclusionOf oneLine, interpretLines_singleton, interpretLine_inclusionOf,
      includeFile_eq_leaving draft found readable]
  rw [parseText, parseAt, whole]
  rcases interpret surroundings 15 (.ofFile path) text draft with ⟨after, _ | failure⟩ <;> rfl

theorem parseFile_of_readable (readable : surroundings.files.text path = .ok text) :
    parseFile surroundings path =
      let outcome := interpret surroundings 16 (.ofFile path) text
        { config := { source := "<string>".toList } }
      match outcome.failure with
      | none => .ok { outcome.draft.config with source := path }
      | some failure => .error failure := by
  let draft : Draft := { config := { source := "<string>".toList } }
  have renamed : interpretAt surroundings 0 (.ofFile path) text
        { config := { source := (Place.ofFile path).source } } =
      (interpret surroundings 16 (.ofFile path) text draft).renamed path :=
    interpret_renamed surroundings 16 (.ofFile path) text path draft
  simp only [parseFile, readable, parseAt, renamed]
  rcases interpret surroundings 16 (.ofFile path) text draft with ⟨after, _ | failure⟩ <;> rfl

theorem parseFile_source {config : Config} (parsed : parseFile surroundings path = .ok config) :
    config.source = path := by
  unfold parseFile at parsed
  split at parsed
  · cases parsed
  · rename_i text readable
    obtain ⟨draft, done, same⟩ := parseAt_eq_ok.mp parsed
    have kept := interpret_source surroundings 16 (.ofFile path) text
      { config := { source := path } }
    have finished : interpret surroundings 16 (.ofFile path) text
        { config := { source := path } } = { draft } := done
    rw [finished, same] at kept
    exact kept

theorem parseText_inclusionOf_eq_parseFile (oneLine : '\n' ∉ argument)
    (found : includedPath surroundings.home directory argument = .ok path)
    (readable : surroundings.files.text path = .ok text) :
    (∃ failure, parseText surroundings directory (inclusionOf argument) = .error failure ∧
      failure.cause = .includeDepth) ∨
    parseText surroundings directory (inclusionOf argument) =
      match parseFile surroundings path with
      | .ok config => .ok { config with source := "<string>".toList }
      | .error failure => .error ((failure.within (.file path)).within (.line 1)) := by
  rw [parseText_inclusionOf oneLine found readable, parseFile_of_readable readable]
  have oneLess : 15 ≤ 16 := by omega
  have source := interpret_source surroundings 16 (.ofFile path) text
    { config := { source := "<string>".toList } }
  rcases interpret_tooDeep_or_eq surroundings oneLess (.ofFile path) text
    { config := { source := "<string>".toList } } with ⟨failure, failed, cause⟩ | same
  · refine .inl ⟨(failure.within (.file path)).within (.line 1), ?_, cause⟩
    simp only [failed]
  · rw [same]
    right
    generalize interpret surroundings 16 (.ofFile path) text _ = outcome at source ⊢
    rcases outcome with ⟨after, _ | failure⟩
    · change after.config.source = "<string>".toList at source
      have named : { after.config with source := "<string>".toList } = after.config := by
        rw [← source]
      exact congrArg Except.ok named.symm
    · rfl

/-- A text that only includes a file is parsed to what the file is parsed to, under another name,
and fails where the file does, one line and one file further in; but the file may include files
one level deeper when it is parsed by itself. -/
theorem parseText_inclusionOf_transparent (oneLine : '\n' ∉ argument)
    (found : includedPath surroundings.home directory argument = .ok path)
    (readable : surroundings.files.text path = .ok text) :
    let wrapped := parseText surroundings directory (inclusionOf argument)
    let direct := parseFile surroundings path
    (∀ config, wrapped = .ok config →
      direct = .ok { config with source := path } ∧ config.source = "<string>".toList) ∧
    (∀ config failure, direct = .ok config → wrapped = .error failure →
      failure.cause = .includeDepth) ∧
    ∀ failure, wrapped = .error failure → failure.cause ≠ .includeDepth →
      ∃ inner, direct = .error inner ∧
        failure = (inner.within (.file path)).within (.line 1) ∧
        failure.message =
          "Error on line 1: Error in " ++ String.ofList path ++ ": " ++ inner.message := by
  intro wrapped direct
  have related := parseText_inclusionOf_eq_parseFile oneLine found readable
  rcases related with ⟨deep, failed, cause⟩ | same
  · have only (failure : Failure) (refused : wrapped = .error failure) : failure = deep :=
      Except.error.inj (refused.symm.trans failed)
    refine ⟨fun config parsed => ?_, fun config failure _ refused => ?_,
      fun failure refused otherwise => ?_⟩
    · cases parsed.symm.trans failed
    · rw [only failure refused, cause]
    · rw [only failure refused] at otherwise
      exact absurd cause otherwise
  · cases parsed : parseFile surroundings path with
    | ok config =>
        rw [parsed] at same
        have named : config.source = path := parseFile_source parsed
        refine ⟨fun other succeeded => ?_, fun other failure _ refused => ?_,
          fun failure refused _ => ?_⟩
        · cases succeeded.symm.trans same
          subst named
          exact ⟨parsed, rfl⟩
        · cases refused.symm.trans same
        · cases refused.symm.trans same
    | error inner =>
        rw [parsed] at same
        refine ⟨fun config succeeded => ?_, fun config failure succeeded _ => ?_,
          fun failure refused _ => ?_⟩
        · cases succeeded.symm.trans same
        · cases succeeded.symm.trans parsed
        · cases refused.symm.trans same
          refine ⟨inner, parsed, rfl, ?_⟩
          have words : "Error on line 1: Error in " =
              "Error on line " ++ toString 1 ++ ": " ++ "Error in " := rfl
          rw [Failure.message_within, Failure.message_within, words]
          simp only [Layer.message, String.append_assoc]

/-- A file with a quotation mark and a backslash in its name, which fails on its second line. -/
theorem parseText_inclusionOf_transparent_failing :
    let surroundings : Surroundings :=
      ⟨fun _ => .ok ("Host b\nPort x".toList.map Char.toUInt8), {}⟩
    let argument := "a \"b\\".toList
    let path := "/c/a \"b\\".toList
    let failure : Failure := ⟨[.line 1, .file path, .line 2], .notANumber .port⟩
    '\n' ∉ argument ∧
      includedPath surroundings.home "/c".toList argument = .ok path ∧
      surroundings.files.text path = .ok "Host b\nPort x".toList ∧
      parseText surroundings "/c".toList (inclusionOf argument) = .error failure ∧
      ∃ inner, parseFile surroundings path = .error inner ∧
        failure = (inner.within (.file path)).within (.line 1) ∧
        failure.message =
          "Error on line 1: Error in " ++ String.ofList path ++ ": " ++ inner.message := by
  intro surroundings argument path failure
  have oneLine : '\n' ∉ argument := by decide
  have found : includedPath surroundings.home "/c".toList argument = .ok path := rfl
  have readable : surroundings.files.text path = .ok "Host b\nPort x".toList := rfl
  have failed : parseText surroundings "/c".toList (inclusionOf argument) = .error failure := rfl
  obtain ⟨-, -, otherwise⟩ := parseText_inclusionOf_transparent oneLine found readable
  exact ⟨oneLine, found, readable, failed, otherwise failure failed (by decide)⟩

end SshConfig
