import SshConfig.Proofs.Lines

namespace SshConfig

/-! What a step leaves that fails.

A directive other than an inclusion is carried out as a whole or not at all, and so is an
inclusion as far as no file is read for it.  A file that fails midway is the exception: what
its lines did before the one that failed stays done, to any depth of inclusion, but the block
that was current before that file is current again.  Lines before the one that fails and files
before the one that fails are carried out like steps that succeed.
-/

/-- The session in which a file is read that this session includes. -/
def Session.entering (session : Session) (path : Path) : Session :=
  { session with place := .ofFile path, depth := session.depth + 1 }

/-- The path that an argument of an inclusion means. -/
def Session.pathOf (session : Session) (argument : Text) : Except ConfigError Path :=
  includedPath session.surroundings.home session.place.directory argument

/-- How a step fails, with the session that it leaves. -/
inductive Session.FailsLeaving : Session → Step → Session → Failure → Prop where
  | directive {failure : Failure} (other : keyword ≠ .inclusion)
      (refused : (session.dispatch keyword arguments line).2 = some failure) :
      FailsLeaving session (.dispatch keyword arguments line) session failure
  | unresolved (unknown : session.pathOf argument = .error cause) :
      FailsLeaving session (.dispatch .inclusion [argument] line) session (.ofCause cause)
  | tooDeep (found : session.pathOf argument = .ok path)
      (deep : includeLimit ≤ session.depth) :
      FailsLeaving session (.dispatch .inclusion [argument] line) session
        (.ofCause .includeDepth)
  | unreadable (found : session.pathOf argument = .ok path)
      (shallow : session.depth < includeLimit)
      (refused : session.surroundings.files.text path = .error reason) :
      FailsLeaving session (.dispatch .inclusion [argument] line) session
        (.ofCause (.unreadable .included argument (some path) reason))
  | file {failure : Failure} (found : session.pathOf argument = .ok path)
      (shallow : session.depth < includeLimit)
      (readable : session.surroundings.files.text path = .ok text)
      (fails : FailsLeaving (session.entering path) (.parse text) inside failure) :
      FailsLeaving session (.dispatch .inclusion [argument] line)
        { session with draft := { inside.draft with current := session.draft.current } }
        (failure.within (.file path))
  | laterFile {draft : Draft} {after : Session} {failure : Failure}
      (done : session.dispatch .inclusion earlier line = ({ session with draft }, none))
      (fails : FailsLeaving { session with draft } (.dispatch .inclusion [argument] line)
        after failure) :
      FailsLeaving session (.dispatch .inclusion (earlier ++ argument :: later) line) after
        failure
  | misreadLine {draft : Draft}
      (cut : Text.lines (first ++ last) = Text.lines first ++ text :: rest)
      (done : session.parse first = ({ session with draft }, none))
      (misread : Line.read text = .error fault) :
      FailsLeaving session (.parse (first ++ last)) { session with draft }
        ((Failure.ofCause (.line fault)).within (.line ((Text.lines first).length + 1)))
  | line {draft : Draft} {after : Session} {failure : Failure}
      (cut : Text.lines (first ++ last) = Text.lines first ++ text :: rest)
      (done : session.parse first = ({ session with draft }, none))
      (reads : Line.read text = .ok (.directive keyword arguments))
      (fails : FailsLeaving { session with draft }
        (.dispatch keyword arguments ((Text.lines first).length + 1)) after failure) :
      FailsLeaving session (.parse (first ++ last)) after
        (failure.within (.line ((Text.lines first).length + 1)))

/-- Whether every failure of a text in the session is one of these. -/
def Session.Explained (session : Session) : Prop :=
  ∀ text inside failure, session.parse text = (inside, some failure) →
    session.FailsLeaving (.parse text) inside failure

theorem dispatch_unchanged {surroundings : Surroundings} {nested : Option Interpretation}
    {place : Place} {line : Nat} {keyword : Keyword} {arguments : List Text} {draft : Draft}
    {failure : Failure} (other : keyword ≠ .inclusion)
    (refused : (dispatch surroundings nested place line keyword arguments draft).failure =
      some failure) :
    dispatch surroundings nested place line keyword arguments draft =
      ⟨draft, some failure⟩ := by
  rcases dispatch_of_ne_inclusion surroundings nested place other with
    ⟨cause, same⟩ | ⟨header, reads, opened⟩ | ⟨setting, after, reads, accepted, changed⟩
  · rw [same] at refused ⊢
    rw [← refused]
  · rw [opened] at refused
    cases refused
  · rw [changed] at refused
    cases refused

namespace Session

variable {session after : Session} {failure : Failure}

theorem after_eq {outcome : Outcome} {failure : Option Failure} :
    session.after outcome = (after, failure) ↔
      ∃ draft, outcome = ⟨draft, failure⟩ ∧ { session with draft } = after := by
  rcases outcome with ⟨draft, failed⟩
  simp [Session.after, and_assoc, and_comm]

theorem parse_eq {text : Text} {failure : Option Failure} :
    session.parse text = (after, failure) ↔
      ∃ draft, interpretLines session.surroundings session.nested session.place 1
        (Text.lines text) session.draft = ⟨draft, failure⟩ ∧ { session with draft } = after := by
  rw [parse, interpretAt_eq_interpretLines, after_eq]

theorem dispatch_inclusion_eq {arguments : List Text} {line : Nat} {failure : Option Failure} :
    session.dispatch .inclusion arguments line = (after, failure) ↔
      ∃ draft, includeFiles session.surroundings session.nested session.place arguments
        session.draft = ⟨draft, failure⟩ ∧ { session with draft } = after :=
  after_eq

theorem includeFiles_singleton {surroundings : Surroundings} {nested : Option Interpretation}
    {place : Place} {argument : Text} {draft : Draft} :
    includeFiles surroundings nested place [argument] draft =
      includeFile surroundings nested place argument draft :=
  Outcome.andThen_done _

theorem parse_eq_failed {first last line : Text} {rest : List Text} {draft left : Draft}
    (cut : Text.lines (first ++ last) = Text.lines first ++ line :: rest)
    (done : session.parse first = ({ session with draft }, none))
    (failed : interpretLine session.surroundings session.nested session.place
      ((Text.lines first).length + 1) line draft = ⟨left, some failure⟩) :
    session.parse (first ++ last) = ({ session with draft := left },
      some (failure.within (.line ((Text.lines first).length + 1)))) := by
  obtain ⟨_, firstDone, same⟩ := parse_eq.mp done
  cases same
  rw [Nat.add_comm] at failed ⊢
  exact parse_eq.mpr ⟨left, (interpretLines_eq_failed ..).mpr
    ⟨Text.lines first, line, rest, draft, failure, cut, firstDone, failed, rfl⟩, rfl⟩

theorem FailsLeaving.of_file {argument : Text} {line : Nat}
    (deeper : ∀ path, session.depth < includeLimit → (session.entering path).Explained)
    (failed : session.dispatch .inclusion [argument] line = (after, some failure)) :
    session.FailsLeaving (.dispatch .inclusion [argument] line) after failure := by
  obtain ⟨draft, ran, rfl⟩ := dispatch_inclusion_eq.mp failed
  rw [includeFiles_singleton] at ran
  unfold includeFile at ran
  rw [← pathOf] at ran
  cases found : session.pathOf argument with
  | error cause =>
      rw [found] at ran
      cases ran
      exact .unresolved found
  | ok path =>
      rw [found, nested_eq] at ran
      by_cases shallow : session.depth < includeLimit
      · rw [if_pos shallow] at ran
        cases readable : session.surroundings.files.text path with
        | error reason =>
            simp only [readable] at ran
            cases ran
            exact .unreadable found shallow readable
        | ok text =>
            simp only [readable] at ran
            split at ran
            · simp_all
            · rename_i inner innerFailed
              cases ran
              have insideFailed : (session.entering path).parse text = (_, some inner) :=
                after_eq.mpr ⟨_, Outcome.eq_failed innerFailed, rfl⟩
              exact .file found shallow readable (deeper path shallow text _ inner insideFailed)
      · rw [if_neg shallow] at ran
        cases ran
        exact .tooDeep found (Nat.le_of_not_lt shallow)

theorem FailsLeaving.of_dispatch {keyword : Keyword} {arguments : List Text} {line : Nat}
    (deeper : ∀ draft path, session.depth < includeLimit →
      (entering { session with draft } path).Explained)
    (failed : session.dispatch keyword arguments line = (after, some failure)) :
    session.FailsLeaving (.dispatch keyword arguments line) after failure := by
  by_cases inclusion : keyword = .inclusion
  · subst inclusion
    obtain ⟨draft, ran, rfl⟩ := dispatch_inclusion_eq.mp failed
    obtain ⟨earlier, argument, later, middle, rfl, done, fileFailed⟩ :=
      (includeFiles_eq_failed ..).mp ran
    rw [← includeFiles_singleton] at fileFailed
    have earlierDone : session.dispatch .inclusion earlier line =
        ({ session with draft := middle }, none) :=
      dispatch_inclusion_eq.mpr ⟨middle, done, rfl⟩
    have lastFailed : dispatch { session with draft := middle } .inclusion [argument] line =
        ({ session with draft }, some failure) :=
      dispatch_inclusion_eq.mpr ⟨draft, fileFailed, rfl⟩
    exact .laterFile earlierDone (.of_file (deeper middle) lastFailed)
  · obtain ⟨draft, ran, rfl⟩ := after_eq.mp failed
    have unchanged := dispatch_unchanged inclusion (congrArg Outcome.failure ran)
    rw [ran] at unchanged
    cases unchanged
    exact .directive inclusion (congrArg Prod.snd failed)

theorem FailsLeaving.of_parse {text : Text}
    (deeper : ∀ draft path, session.depth < includeLimit →
      (entering { session with draft } path).Explained)
    (failed : session.parse text = (after, some failure)) :
    session.FailsLeaving (.parse text) after failure := by
  obtain ⟨draft, ran, rfl⟩ := parse_eq.mp failed
  obtain ⟨before, line, rest, middle, inner, cut, done, lineFailed, rfl⟩ :=
    (interpretLines_eq_failed ..).mp ran
  obtain ⟨first, last, rfl, rfl⟩ := Text.exists_lines_eq cut
  have firstDone : session.parse first = ({ session with draft := middle }, none) :=
    parse_eq.mpr ⟨middle, done, rfl⟩
  rw [Nat.add_comm] at lineFailed ⊢
  unfold interpretLine at lineFailed
  split at lineFailed
  · rename_i fault misread
    cases lineFailed
    exact .misreadLine cut firstDone misread
  · cases lineFailed
  · cases lineFailed
  · rename_i keyword arguments reads
    have dispatched : dispatch { session with draft := middle } keyword arguments
        ((Text.lines first).length + 1) = ({ session with draft }, some inner) :=
      after_eq.mpr ⟨draft, lineFailed, rfl⟩
    exact .line cut firstDone reads (.of_dispatch deeper dispatched)

theorem FailsLeaving.of_perform {step : Step}
    (failed : session.perform step = (after, some failure)) :
    session.FailsLeaving step after failure := by
  -- each included file is read one level closer to the limit
  induction left : includeLimit - session.depth using Nat.strongRecOn
    generalizing session step after failure with
  | _ levels ih =>
      have deeper (draft : Draft) (path : Path) (shallow : session.depth < includeLimit) :
          (entering { session with draft } path).Explained := by
        intro text inside failure insideFailed
        have closer : includeLimit - (entering { session with draft } path).depth < levels := by
          simp only [entering]
          omega
        have performed : (entering { session with draft } path).perform (.parse text) =
            (inside, some failure) := insideFailed
        exact ih _ closer performed rfl
      cases step with
      | parse text => exact .of_parse deeper failed
      | dispatch keyword arguments line => exact .of_dispatch deeper failed

theorem FailsLeaving.perform_eq {step : Step} (fails : session.FailsLeaving step after failure) :
    session.perform step = (after, some failure) := by
  induction fails with
  | directive other refused =>
      exact after_eq.mpr ⟨_, dispatch_unchanged other refused, rfl⟩
  | unresolved unknown =>
      refine dispatch_inclusion_eq.mpr ⟨_, ?_, rfl⟩
      rw [includeFiles_singleton, includeFile, ← pathOf, unknown]
      rfl
  | tooDeep found deep =>
      refine dispatch_inclusion_eq.mpr ⟨_, ?_, rfl⟩
      rw [includeFiles_singleton, includeFile, ← pathOf, found, nested_eq_none.mpr deep]
      rfl
  | unreadable found shallow refused =>
      refine dispatch_inclusion_eq.mpr ⟨_, ?_, rfl⟩
      rw [includeFiles_singleton, includeFile, ← pathOf, found, nested_eq, if_pos shallow]
      simp only [refused]
      rfl
  | file found shallow readable fails ih =>
      obtain ⟨draft, ran, rfl⟩ := after_eq.mp ih
      simp only [entering] at ran
      refine dispatch_inclusion_eq.mpr ⟨_, ?_, rfl⟩
      rw [includeFiles_singleton, includeFile, ← pathOf, found, nested_eq, if_pos shallow]
      simp only [readable, ran]
  | laterFile done fails ih =>
      obtain ⟨_, earlierDone, same⟩ := dispatch_inclusion_eq.mp done
      cases same
      obtain ⟨last, fileFailed, rfl⟩ := dispatch_inclusion_eq.mp ih
      rw [includeFiles_singleton] at fileFailed
      refine dispatch_inclusion_eq.mpr ⟨last, ?_, rfl⟩
      exact (includeFiles_eq_failed ..).mpr ⟨_, _, _, _, rfl, earlierDone, fileFailed⟩
  | misreadLine cut done misread =>
      refine parse_eq_failed cut done ?_
      rw [interpretLine, misread]
      rfl
  | line cut done reads fails ih =>
      obtain ⟨last, lineFailed, rfl⟩ := after_eq.mp ih
      refine parse_eq_failed cut done ?_
      rw [interpretLine, reads]
      exact lineFailed

/-- A step fails in exactly the ways that were described, and leaves exactly what they say. -/
theorem perform_eq_failed_iff (session : Session) (step : Step) (after : Session)
    (failure : Failure) :
    session.perform step = (after, some failure) ↔ session.FailsLeaving step after failure :=
  ⟨.of_perform, FailsLeaving.perform_eq⟩

end Session

end SshConfig
