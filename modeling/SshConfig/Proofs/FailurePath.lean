import SshConfig.Proofs.Interpretation
import Mathlib.Data.List.Chain

namespace SshConfig

/-! The way that a failure tells of.

A failure names a line of the outermost text, the file that this line includes, a line of
that file, and so on to the line that fails by itself.  Every one of those lines is the
first of its text that fails, and the file that it includes is the first of the line that
fails, so the way is the one that the interpretation took.
-/

variable {surroundings : Surroundings} {nested : Option Interpretation} {place : Place}
  {draft : Draft} {failure : Failure}

theorem interpretLines_failure {number : Nat} {lines : List Text}
    (failed : (interpretLines surroundings nested place number lines draft).failure =
      some failure) :
    ∃ before line after middle inner,
      lines = before ++ line :: after ∧
      interpretLines surroundings nested place number before draft = { draft := middle } ∧
      (interpretLine surroundings nested place (number + before.length) line middle).failure =
        some inner ∧
      failure = inner.within (.line (number + before.length)) := by
  obtain ⟨before, line, after, middle, inner, cut, done, lineFailed, layered⟩ :=
    (interpretLines_eq_failed ..).mp (Outcome.eq_failed failed)
  exact ⟨before, line, after, middle, inner, cut, done, by rw [lineFailed], layered⟩

theorem includeFiles_failure {arguments : List Text}
    (failed : (includeFiles surroundings nested place arguments draft).failure =
      some failure) :
    ∃ earlier argument later middle,
      arguments = earlier ++ argument :: later ∧
      includeFiles surroundings nested place earlier draft = { draft := middle } ∧
      (includeFile surroundings nested place argument middle).failure = some failure := by
  obtain ⟨earlier, argument, later, middle, cut, done, fileFailed⟩ :=
    (includeFiles_eq_failed ..).mp (Outcome.eq_failed failed)
  exact ⟨earlier, argument, later, middle, cut, done, by rw [fileFailed]⟩

/-- Whether carrying out a line comes to the file at a path, after the files that the line
names before it, with the draft that those leave. -/
def Reaches (surroundings : Surroundings) (nested : Option Interpretation) (place : Place)
    (line : Text) (draft : Draft) (path : Path) (text : Text) (middle : Draft) : Prop :=
  ∃ earlier argument later,
    Directive.ofLine line = .ok (some (.inclusion (earlier ++ argument :: later))) ∧
    includeFiles surroundings nested place earlier draft = { draft := middle } ∧
    includedPath surroundings.home place.directory argument = .ok path ∧
    surroundings.files.text path = .ok text

theorem includedPath_ne_includeDepth {home : Homes} {directory : Path} {argument : Text} :
    includedPath home directory argument ≠ .error .includeDepth := by
  unfold includedPath
  split <;> simp

theorem map_eq_error {α β : Type} {result : Except ConfigError α} {change : α → β}
    {cause : ConfigError} : result.map change = .error cause ↔ result = .error cause := by
  cases result <;> simp [Except.map]

theorem Directive.single_error {keyword : Keyword} {arguments : List Text}
    {cause : ConfigError} (refused : single keyword arguments = .error cause) :
    cause = .argumentCount keyword := by
  unfold single at refused
  split at refused <;> simp_all

theorem Directive.read_ne_includeDepth {keyword : Keyword} {arguments : List Text} :
    read keyword arguments ≠ .error .includeDepth := by
  intro refused
  cases keyword with
  | host | inclusion => cases refused
  | matching =>
      simp only [read] at refused
      split at refused <;> cases refused
  | port =>
      simp only [read] at refused
      split at refused
      · rename_i cause single
        cases refused
        cases single_error single
      · split at refused <;> cases refused
  | hostname | identityAgent | identityFile | user =>
      cases single_error (map_eq_error.mp refused)

theorem Directive.ofLine_ne_includeDepth {line : Text} :
    ofLine line ≠ .error .includeDepth := by
  intro refused
  unfold ofLine at refused
  split at refused
  · cases refused
  · cases refused
  · cases refused
  · exact read_ne_includeDepth (map_eq_error.mp refused)

theorem Draft.set_ne_includeDepth {setting : Setting} :
    draft.set setting ≠ .error .includeDepth := by
  unfold set
  split <;> simp

/-- A file fails before it is interpreted, or in its interpretation. -/
theorem includeFile_failure {argument : Text}
    (failed : (includeFile surroundings nested place argument draft).failure = some failure) :
    (∃ cause, failure = .ofCause cause ∧ (cause = .includeDepth → nested = none)) ∨
      ∃ path text interpret inner,
        includedPath surroundings.home place.directory argument = .ok path ∧
        surroundings.files.text path = .ok text ∧
        nested = some interpret ∧
        (interpret (.ofFile path) text draft).failure = some inner ∧
        failure = inner.within (.file path) := by
  unfold includeFile at failed
  cases found : includedPath surroundings.home place.directory argument with
  | error cause =>
      simp only [found, Outcome.ofResult, Option.some.injEq] at failed
      refine .inl ⟨cause, failed.symm, ?_⟩
      rintro rfl
      exact absurd found includedPath_ne_includeDepth
  | ok path =>
      cases nested with
      | none =>
          simp only [found, Outcome.ofResult, Option.some.injEq] at failed
          exact .inl ⟨_, failed.symm, fun _ => rfl⟩
      | some interpret =>
          cases readable : surroundings.files.text path with
          | error reason =>
              simp only [found, readable, Outcome.ofResult, Option.some.injEq] at failed
              refine .inl ⟨_, failed.symm, ?_⟩
              rintro ⟨⟩
          | ok text =>
              simp only [found, readable] at failed
              split at failed
              · simp_all
              · rename_i inner innerFailed
                cases failed
                exact .inr ⟨path, text, interpret, inner, rfl, readable, rfl, innerFailed, rfl⟩

/-- A line fails by itself, or in a file that it comes to. -/
theorem interpretLine_failure {number : Nat} {line : Text}
    (failed : (interpretLine surroundings nested place number line draft).failure =
      some failure) :
    (∃ cause, failure = .ofCause cause ∧ (cause = .includeDepth → nested = none)) ∨
      ∃ path text middle interpret inner,
        Reaches surroundings nested place line draft path text middle ∧
        nested = some interpret ∧
        (interpret (.ofFile path) text middle).failure = some inner ∧
        failure = inner.within (.file path) := by
  rw [interpretLine_eq] at failed
  split at failed
  · rename_i cause refused
    cases failed
    refine .inl ⟨cause, rfl, ?_⟩
    rintro rfl
    exact absurd refused Directive.ofLine_ne_includeDepth
  · cases failed
  · rename_i directive reads
    cases directive with
    | header header => cases failed
    | setting setting =>
        obtain ⟨cause, refused, rfl⟩ := Outcome.ofResult_failure.mp failed
        refine .inl ⟨cause, rfl, ?_⟩
        rintro rfl
        exact absurd refused Draft.set_ne_includeDepth
    | inclusion arguments =>
        obtain ⟨earlier, argument, later, middle, rfl, done, fileFailed⟩ :=
          includeFiles_failure failed
        rcases includeFile_failure fileFailed with own |
          ⟨path, text, interpret, inner, found, readable, rfl, innerFailed, rfl⟩
        · exact .inl own
        · exact .inr ⟨path, text, middle, interpret, inner,
            ⟨earlier, argument, later, reads, done, found, readable⟩, rfl, innerFailed, rfl⟩

/-- A line of a text, and the session as it was when the text was begun. -/
structure Stop where
  session : Session
  text : Text
  number : Nat

namespace Stop

/-- Whether the line reads so and is reached with this draft: the lines before it do not
fail and leave the draft. -/
def At (stop : Stop) (line : Text) (draft : Draft) : Prop :=
  ∃ before after,
    Text.lines stop.text = before ++ line :: after ∧
    stop.number = 1 + before.length ∧
    interpretLines stop.session.surroundings stop.session.nested stop.session.place 1 before
      stop.session.draft = { draft }

/-- Whether the line includes the file of the other line, which is begun as a session of
its own, one level deeper, with the draft that is left by what comes before. -/
def Enters (outer inner : Stop) : Prop :=
  ∃ line draft path middle,
    outer.At line draft ∧
    Reaches outer.session.surroundings outer.session.nested outer.session.place line draft
      path inner.text middle ∧
    inner.session = { outer.session with
      place := .ofFile path, depth := outer.session.depth + 1, draft := middle }

/-- Whether the line fails by itself, not in a file that it includes. -/
def Fails (stop : Stop) (cause : ConfigError) : Prop :=
  ∃ line draft,
    stop.At line draft ∧
    (interpretLine stop.session.surroundings stop.session.nested stop.session.place
      stop.number line draft).failure = some (.ofCause cause)

end Stop

/-- A way from a text through the files that are included to the line that fails. -/
structure FailurePath (session : Session) (text : Text) (failure : Failure) (first : Stop)
    (rest : List Stop) : Prop where
  begins : first.session = session
  reads : first.text = text
  enters : (first :: rest).IsChain Stop.Enters
  fails : ∃ last, (first :: rest).getLast? = some last ∧ last.Fails failure.cause
  layers : failure.layers = .line first.number ::
    rest.flatMap fun stop => [.file stop.session.place.source, .line stop.number]
  bounded : rest.length ≤ includeLimit - session.depth
  deepest : failure.cause = .includeDepth → includeLimit ≤ session.depth + rest.length

/-- A line that includes a file comes before the way through that file. -/
theorem FailurePath.extend {first next : Stop} {rest : List Stop} (entered : first.Enters next)
    (way : FailurePath next.session next.text failure next rest)
    (shallow : first.session.depth < includeLimit) :
    FailurePath first.session first.text
      ((failure.within (.file next.session.place.source)).within (.line first.number)) first
      (next :: rest) := by
  have deeper : next.session.depth = first.session.depth + 1 := by
    obtain ⟨line, draft, path, middle, -, -, begun⟩ := entered
    rw [begun]
  refine ⟨rfl, rfl, .cons_cons entered way.enters, ?_, ?_, ?_, ?_⟩
  · obtain ⟨last, isLast, fails⟩ := way.fails
    exact ⟨last, by simpa using isLast, fails⟩
  · simp only [Failure.within, way.layers, List.flatMap_cons]
    rfl
  · have bounded := way.bounded
    rw [deeper] at bounded
    simp only [List.length_cons]
    omega
  · intro deepest
    have reachesLimit : includeLimit ≤ next.session.depth + rest.length := way.deepest deepest
    rw [deeper] at reachesLimit
    simp only [List.length_cons]
    omega

theorem Session.exists_failurePath {session : Session} {text : Text}
    (failed : (session.parse text).2 = some failure) :
    ∃ first rest, FailurePath session text failure first rest := by
  -- the level of inclusion bounds how far the way can go on
  induction left : includeLimit - session.depth using Nat.strong_induction_on
    generalizing session text failure with
  | _ levels ih =>
      simp only [parse, after, interpretAt_eq_interpretLines] at failed
      obtain ⟨before, line, rest, draft, inner, lines, done, lineFailed, rfl⟩ :=
        interpretLines_failure failed
      let first : Stop := ⟨session, text, 1 + before.length⟩
      have reached : first.At line draft := ⟨before, rest, lines, rfl, done⟩
      rcases interpretLine_failure lineFailed with ⟨cause, rfl, tooDeep⟩ |
        ⟨path, content, middle, interpret, deeper, reaches, nested, fileFailed, rfl⟩
      · have fails : first.Fails cause := ⟨line, draft, reached, lineFailed⟩
        exact ⟨first, [], rfl, rfl, .singleton _, ⟨first, rfl, fails⟩, rfl, Nat.zero_le _,
          fun deepest => nested_eq_none.mp (tooDeep deepest)⟩
      · obtain ⟨shallow, rfl⟩ := nested_eq_some.mp nested
        let below : Session := { session with
          place := .ofFile path, depth := session.depth + 1, draft := middle }
        have less : includeLimit - below.depth < levels := by
          simp only [below]
          omega
        have belowFailed : (below.parse content).2 = some deeper := fileFailed
        obtain ⟨next, others, way⟩ := ih _ less belowFailed rfl
        have entered : first.Enters next :=
          ⟨line, draft, path, middle, reached, way.reads ▸ reaches, way.begins⟩
        have source : next.session.place.source = path := by
          rw [way.begins]
          rfl
        have inside : FailurePath next.session next.text deeper next others := by
          rw [way.begins, way.reads]
          exact way
        have whole := inside.extend entered shallow
        rw [source] at whole
        exact ⟨first, next :: others, whole⟩

theorem Failure.message_eq (failure : Failure) :
    failure.message =
      String.join (failure.layers.map fun layer => layer.message ++ ": ") ++
        failure.cause.message := by
  obtain ⟨layers, cause⟩ := failure
  induction layers with
  | nil => simp [message, pieces, ConfigError.message]
  | cons layer rest ih =>
      have outermost := message_within layer ⟨rest, cause⟩
      rw [ih] at outermost
      simpa [within, String.append_assoc] using outermost

theorem join_layers (stops : List Stop) :
    String.join ((stops.flatMap fun stop =>
        [Layer.file stop.session.place.source, .line stop.number]).map
          fun layer => layer.message ++ ": ") =
      String.join (stops.map fun stop =>
        "Error in " ++ String.ofList stop.session.place.source ++ ": Error on line " ++
          toString stop.number ++ ": ") := by
  have colon : ": Error on line " = ": " ++ "Error on line " := rfl
  induction stops with
  | nil => rfl
  | cons stop rest ih =>
      simp only [List.flatMap_cons, List.cons_append, List.nil_append, List.map_cons,
        String.join_cons]
      rw [ih]
      simp only [Layer.message, colon, String.append_assoc]

/-- A failure leads, by lines that include files, to the first line that fails by itself;
the cause is the depth of inclusion only in the deepest file that there may be. -/
theorem parseText_exists_failurePath {directory : Path} {text : Text}
    (failed : parseText surroundings directory text = .error failure) :
    ∃ first rest,
      FailurePath
        { surroundings
          place := ⟨"<string>".toList, directory⟩
          draft := { config := { source := "<string>".toList } } }
        text failure first rest ∧
      rest.length ≤ 16 ∧
      failure.message =
        "Error on line " ++ toString first.number ++ ": " ++
          String.join (rest.map fun stop =>
            "Error in " ++ String.ofList stop.session.place.source ++ ": Error on line " ++
              toString stop.number ++ ": ") ++
          failure.cause.message ∧
      (failure.cause = .includeDepth → rest.length = 16) := by
  let session : Session :=
    { surroundings
      place := ⟨"<string>".toList, directory⟩
      draft := { config := { source := "<string>".toList } } }
  have sessionFailed : (session.parse text).2 = some failure := parseAt_eq_error.mp failed
  obtain ⟨first, rest, way⟩ := session.exists_failurePath sessionFailed
  have bounded : rest.length ≤ 16 := way.bounded
  refine ⟨first, rest, way, bounded, ?_, fun deepest => ?_⟩
  · rw [failure.message_eq, way.layers, List.map_cons, String.join_cons, join_layers]
    rfl
  · have reached : 16 ≤ 0 + rest.length := way.deepest deepest
    omega

/-- The way through a file and one in its directory, after a line and a file that do not fail. -/
theorem parseText_exists_failurePath_inclusion :
    let outer := "Include two".toList.map Char.toUInt8
    let inner := "Host b\nPort x".toList.map Char.toUInt8
    let files : FileSystem := fun path =>
      if path = "/c/h".toList then .ok []
      else if path = "/c/d/one".toList then .ok outer
      else if path = "/c/d/two".toList then .ok inner
      else .error .notFound
    let surroundings : Surroundings := ⟨files, {}⟩
    let text := "User u\nInclude h d/one".toList
    let failure : Failure :=
      ⟨[.line 2, .file "/c/d/one".toList, .line 1, .file "/c/d/two".toList, .line 2],
        .notANumber .port⟩
    parseText surroundings "/c".toList text = .error failure ∧
      ∃ first rest,
        FailurePath
          { surroundings
            place := ⟨"<string>".toList, "/c".toList⟩
            draft := { config := { source := "<string>".toList } } }
          text failure first rest ∧
        rest.length ≤ 16 ∧
        failure.message =
          "Error on line " ++ toString first.number ++ ": " ++
            String.join (rest.map fun stop =>
              "Error in " ++ String.ofList stop.session.place.source ++ ": Error on line " ++
                toString stop.number ++ ": ") ++
            failure.cause.message ∧
        (failure.cause = .includeDepth → rest.length = 16) := by
  intro outer inner files surroundings text failure
  have failed : parseText surroundings "/c".toList text = .error failure := rfl
  exact ⟨failed, parseText_exists_failurePath failed⟩

end SshConfig
