import SshConfig.Session

namespace SshConfig

/-! How outcomes compose, and what one line does.

A line is first read as a directive, which has nothing to do with the draft, and the
directive is then carried out.  The laws below are stated with that split, so that what
follows from them has one case for each kind of directive.
-/

namespace Outcome

variable {outcome : Outcome} {next : Draft → Outcome} {draft after : Draft}
  {layer : Layer} {failure : Failure} {result : Except ConfigError Draft}

theorem andThen_assoc (outcome : Outcome) (next last : Draft → Outcome) :
    (outcome.andThen next).andThen last =
      outcome.andThen fun draft => (next draft).andThen last := by
  rcases outcome with ⟨draft, _ | failure⟩ <;> rfl

theorem andThen_done (outcome : Outcome) :
    (outcome.andThen fun draft => { draft }) = outcome := by
  rcases outcome with ⟨draft, _ | failure⟩ <;> rfl

theorem eq_done (succeeded : outcome.failure = none) : outcome = { draft := outcome.draft } := by
  rcases outcome with ⟨draft, _ | failure⟩
  · rfl
  · cases succeeded

theorem eq_failed (failed : outcome.failure = some failure) :
    outcome = ⟨outcome.draft, some failure⟩ := by
  rw [← failed]

theorem andThen_eq_done :
    outcome.andThen next = { draft := after } ↔
      ∃ middle, outcome = { draft := middle } ∧ next middle = { draft := after } := by
  rcases outcome with ⟨draft, _ | failure⟩ <;> simp [andThen]

theorem within_eq_done :
    outcome.within layer = { draft := after } ↔ outcome = { draft := after } := by
  rcases outcome with ⟨draft, _ | failure⟩ <;> simp [within]

theorem ofResult_eq_done :
    ofResult draft result = { draft := after } ↔ result = .ok after := by
  cases result <;> simp [ofResult]

theorem andThen_eq_failed :
    outcome.andThen next = ⟨after, some failure⟩ ↔
      outcome = ⟨after, some failure⟩ ∨
        ∃ middle, outcome = { draft := middle } ∧ next middle = ⟨after, some failure⟩ := by
  rcases outcome with ⟨draft, _ | failure⟩ <;> simp [andThen]

theorem within_eq_failed :
    outcome.within layer = ⟨after, some failure⟩ ↔
      ∃ inner, outcome = ⟨after, some inner⟩ ∧ inner.within layer = failure := by
  rcases outcome with ⟨draft, _ | failure⟩ <;> simp [within, and_assoc]

theorem ofResult_failure :
    (ofResult draft result).failure = some failure ↔
      ∃ cause, result = .error cause ∧ .ofCause cause = failure := by
  cases result <;> simp [ofResult]

end Outcome

theorem map_eq_ok {ε α β : Type} {result : Except ε α} {change : α → β} {value : β} :
    result.map change = .ok value ↔ ∃ old, result = .ok old ∧ change old = value := by
  cases result <;> simp [Except.map]

/-- The directives that keywords with arguments stand for. -/
inductive Directive.Reads : Keyword → List Text → Directive → Prop where
  | host : Reads .host arguments (.header (.host (arguments.map HostPattern.ofText)))
  | matching (given : Condition.readAll arguments = .ok conditions) :
      Reads .matching arguments (.header (.matching conditions))
  | inclusion : Reads .inclusion arguments (.inclusion arguments)
  | hostname : Reads .hostname [name] (.setting (.hostname name))
  | identityAgent :
      Reads .identityAgent [argument] (.setting (.identityAgent (.ofText argument)))
  | identityFile : Reads .identityFile [path] (.setting (.identityFile path))
  | port (given : readPort? argument = some number) :
      Reads .port [argument] (.setting (.port number))
  | user : Reads .user [name] (.setting (.user name))

theorem Directive.single_eq_ok {keyword : Keyword} {arguments : List Text}
    {argument : Text} :
    single keyword arguments = .ok argument ↔ arguments = [argument] := by
  unfold single
  split <;> simp_all

theorem Directive.read_eq_ok {keyword : Keyword} {arguments : List Text}
    {directive : Directive} :
    read keyword arguments = .ok directive ↔ Reads keyword arguments directive := by
  constructor
  · intro reads
    cases keyword with
    | host =>
        cases reads
        exact .host
    | matching =>
        cases given : Condition.readAll arguments with
        | error fault => simp [read, given] at reads
        | ok conditions =>
            simp only [read, given, Except.ok.injEq] at reads
            cases reads
            exact .matching given
    | inclusion =>
        cases reads
        exact .inclusion
    | port =>
        cases only : single .port arguments with
        | error cause => simp [read, only] at reads
        | ok argument =>
            obtain rfl := single_eq_ok.mp only
            cases given : readPort? argument with
            | none => simp [read, single, given] at reads
            | some number =>
                simp only [read, single, given, Except.ok.injEq] at reads
                cases reads
                exact .port given
    | hostname | identityAgent | identityFile | user =>
        simp only [read] at reads
        cases only : single _ arguments with
        | error cause =>
            rw [only] at reads
            cases reads
        | ok argument =>
            rw [only] at reads
            obtain rfl := single_eq_ok.mp only
            cases reads
            constructor
  · intro reads
    cases reads with
    | matching given => simp only [read, given]
    | port given => simp only [read, single, given]
    | host | inclusion | hostname | identityAgent | identityFile | user => rfl

/-- What a line asks for, if it asks for anything. -/
def Directive.ofLine (text : Text) : Except ConfigError (Option Directive) :=
  match Line.read text with
  | .error fault => .error (.line fault)
  | .ok .empty => .ok none
  | .ok (.unknown _) => .ok none
  | .ok (.directive keyword arguments) => (Directive.read keyword arguments).map some

theorem Directive.ofLine_eq_some {text : Text} {directive : Directive} :
    ofLine text = .ok (some directive) ↔
      ∃ keyword arguments, Line.read text = .ok (.directive keyword arguments) ∧
        Reads keyword arguments directive := by
  unfold ofLine
  cases Line.read text with
  | error fault => simp
  | ok line =>
      cases line with
      | empty | unknown => simp
      | directive keyword arguments => simp [map_eq_ok, ← read_eq_ok, and_assoc]

variable (surroundings : Surroundings) (nested : Option Interpretation) (place : Place)

theorem interpretLine_eq (line : Nat) (text : Text) (draft : Draft) :
    interpretLine surroundings nested place line text draft =
      match Directive.ofLine text with
      | .error cause => .ofResult draft (.error cause)
      | .ok none => { draft }
      | .ok (some directive) => carryOut surroundings nested place line directive draft := by
  unfold interpretLine Directive.ofLine
  cases Line.read text with
  | error fault => rfl
  | ok line =>
      cases line with
      | empty | unknown keyword => rfl
      | directive keyword arguments =>
          simp only [dispatch]
          cases Directive.read keyword arguments <;> rfl

/-- All that a keyword other than an inclusion can do. -/
theorem dispatch_of_ne_inclusion {line : Nat} {keyword : Keyword} {arguments : List Text}
    {draft : Draft} (other : keyword ≠ .inclusion) :
    (∃ cause, dispatch surroundings nested place line keyword arguments draft =
      ⟨draft, some (.ofCause cause)⟩) ∨
    (∃ header, Directive.read keyword arguments = .ok (.header header) ∧
      dispatch surroundings nested place line keyword arguments draft =
        { draft := draft.openBlock header ⟨place.source, line⟩ }) ∨
    ∃ setting after, Directive.read keyword arguments = .ok (.setting setting) ∧
      draft.set setting = .ok after ∧
      dispatch surroundings nested place line keyword arguments draft = { draft := after } := by
  unfold dispatch
  cases reads : Directive.read keyword arguments with
  | error cause => exact .inl ⟨cause, rfl⟩
  | ok directive =>
      cases directive with
      | header header => exact .inr (.inl ⟨header, rfl, rfl⟩)
      | setting setting =>
          simp only [carryOut]
          cases accepted : draft.set setting with
          | error cause => exact .inl ⟨cause, rfl⟩
          | ok after => exact .inr (.inr ⟨setting, after, rfl, accepted, rfl⟩)
      | inclusion files =>
          cases Directive.read_eq_ok.mp reads
          exact absurd rfl other

theorem interpretLines_append (number : Nat) (lines later : List Text) (draft : Draft) :
    interpretLines surroundings nested place number (lines ++ later) draft =
      (interpretLines surroundings nested place number lines draft).andThen
        (interpretLines surroundings nested place (number + lines.length) later) := by
  induction lines generalizing number draft with
  | nil => rfl
  | cons line rest ih =>
      have number_eq : number + (line :: rest).length = number + 1 + rest.length := by
        simp only [List.length_cons]
        omega
      simp only [List.cons_append, interpretLines, number_eq, Outcome.andThen_assoc]
      congr 1
      funext middle
      exact ih (number + 1) middle

/-- Lines fail at the first one that does. -/
theorem interpretLines_eq_failed {number : Nat} {lines : List Text} {draft after : Draft}
    {failure : Failure} :
    interpretLines surroundings nested place number lines draft = ⟨after, some failure⟩ ↔
      ∃ before line rest middle inner,
        lines = before ++ line :: rest ∧
        interpretLines surroundings nested place number before draft = { draft := middle } ∧
        interpretLine surroundings nested place (number + before.length) line middle =
          ⟨after, some inner⟩ ∧
        failure = inner.within (.line (number + before.length)) := by
  constructor
  · intro failed
    induction lines generalizing number draft with
    | nil => cases failed
    | cons line rest ih =>
        rcases Outcome.andThen_eq_failed.mp failed with first | ⟨middle, done, others⟩
        · obtain ⟨inner, lineFailed, rfl⟩ := Outcome.within_eq_failed.mp first
          exact ⟨[], line, rest, draft, inner, rfl, rfl, lineFailed, rfl⟩
        · obtain ⟨before, failing, later, last, inner, rfl, ran, lineFailed, rfl⟩ := ih others
          have position : number + (line :: before).length = number + 1 + before.length := by
            simp only [List.length_cons]
            omega
          refine ⟨line :: before, failing, later, last, inner, rfl, ?_, ?_, ?_⟩
          · rw [interpretLines, done]
            exact ran
          · rwa [position]
          · rw [position]
  · rintro ⟨before, line, rest, middle, inner, rfl, done, lineFailed, rfl⟩
    rw [interpretLines_append, done]
    simp only [Outcome.andThen, interpretLines, lineFailed, Outcome.within, Option.map_some]

/-- The files of an inclusion fail at the first one that does. -/
theorem includeFiles_eq_failed {arguments : List Text} {draft after : Draft}
    {failure : Failure} :
    includeFiles surroundings nested place arguments draft = ⟨after, some failure⟩ ↔
      ∃ earlier argument later middle,
        arguments = earlier ++ argument :: later ∧
        includeFiles surroundings nested place earlier draft = { draft := middle } ∧
        includeFile surroundings nested place argument middle = ⟨after, some failure⟩ := by
  constructor
  · intro failed
    induction arguments generalizing draft with
    | nil => cases failed
    | cons argument rest ih =>
        rcases Outcome.andThen_eq_failed.mp failed with first | ⟨middle, done, others⟩
        · exact ⟨[], argument, rest, draft, rfl, rfl, first⟩
        · obtain ⟨earlier, failing, later, last, rfl, ran, fileFailed⟩ := ih others
          refine ⟨argument :: earlier, failing, later, last, rfl, ?_, fileFailed⟩
          rw [includeFiles, done]
          exact ran
  · rintro ⟨earlier, argument, later, middle, rfl, done, fileFailed⟩
    induction earlier generalizing draft with
    | nil =>
        cases done
        simp only [List.nil_append, includeFiles, fileFailed, Outcome.andThen]
    | cons first earlier ih =>
        obtain ⟨next, firstDone, others⟩ := Outcome.andThen_eq_done.mp done
        rw [List.cons_append, includeFiles, firstDone]
        exact ih others

/-- Included files are interpreted one level deeper than the session, unless that is too
deep. -/
theorem Session.nested_eq (session : Session) :
    session.nested =
      if session.depth < includeLimit then
        some (interpretAt session.surroundings (session.depth + 1))
      else none := by
  unfold nested interpretAt
  cases left : includeLimit - session.depth with
  | zero => rw [if_neg (by omega)]
  | succ levels =>
      rw [if_pos (by omega), show includeLimit - (session.depth + 1) = levels by omega]

theorem Session.nested_eq_none {session : Session} :
    session.nested = none ↔ includeLimit ≤ session.depth := by
  rw [nested_eq]
  by_cases shallow : session.depth < includeLimit
  · simp [shallow]
  · simp [shallow, Nat.le_of_not_lt shallow]

theorem Session.nested_eq_some {session : Session} {interpretation : Interpretation} :
    session.nested = some interpretation ↔
      session.depth < includeLimit ∧
        interpretAt session.surroundings (session.depth + 1) = interpretation := by
  rw [nested_eq]
  by_cases shallow : session.depth < includeLimit <;> simp [shallow]

/-- What the interpretations of included files have, where every level has it. -/
theorem Session.nested_property {property : Interpretation → Prop} (session : Session)
    (levels : ∀ levels, property (interpret session.surroundings levels)) :
    ∀ interpret ∈ session.nested, property interpret := by
  intro interpretation member
  obtain ⟨-, rfl⟩ := nested_eq_some.mp member
  exact levels _

/-- What every interpretation has that interprets included files by one that has it, every
level of inclusion has. -/
theorem interpret_induction {property : Interpretation → Prop}
    (step : ∀ nested : Option Interpretation, (∀ interpret ∈ nested, property interpret) →
      property fun place text draft =>
        interpretLines surroundings nested place 1 (Text.lines text) draft)
    (levels : Nat) : property (interpret surroundings levels) := by
  induction levels with
  | zero => exact step none (by simp)
  | succ levels ih => exact step (some (interpret surroundings levels)) (by simpa using ih)

variable {surroundings place} {text : Text}

theorem parseAt_eq_ok {config : Config} :
    parseAt surroundings place text = .ok config ↔
      ∃ draft, interpretAt surroundings 0 place text { config := { source := place.source } } =
        { draft } ∧ draft.config = config := by
  unfold parseAt
  rcases interpretAt surroundings 0 place text _ with ⟨draft, _ | failure⟩ <;> simp

theorem parseAt_eq_error {failure : Failure} :
    parseAt surroundings place text = .error failure ↔
      (interpretAt surroundings 0 place text
        { config := { source := place.source } }).failure = some failure := by
  unfold parseAt
  rcases interpretAt surroundings 0 place text _ with ⟨draft, _ | failure⟩ <;> simp

end SshConfig
