import SshConfig.Proofs.Directory
import SshConfig.Proofs.Interpretation

namespace SshConfig

/-! The flattened form of a configuration.

Flattening replaces every inclusion by what stands in the included file, to any depth, and
leaves a plain sequence of statements.  It knows no draft, no current block and no limit
of depth.  A text whose interpretation does not fail has exactly one flattened form, and
the interpretation leaves what carrying out its statements one after the other leaves.
-/

/-- A directive that stands for itself, as inclusions do not. -/
inductive Statement where
  | header (header : Header) (origin : Origin)
  | setting (setting : Setting)
deriving DecidableEq, Repr

/-- What is flattened: lines, the first of which has the given number, or what one line
asks for, or the files of an inclusion. -/
inductive Stretch where
  | lines (number : Nat) (texts : List Text)
  | line (number : Nat) (request : Option Directive)
  | files (arguments : List Text)

/-- The statements that a stretch at a place consists of.  An included file is flattened in its own
directory. -/
inductive Flattens (surroundings : Surroundings) :
    Place → Stretch → List Statement → Prop where
  | noLine : Flattens surroundings place (.lines number []) []
  | oneLine (reads : Directive.ofLine line = .ok request)
      (first : Flattens surroundings place (.line number request) statements)
      (rest : Flattens surroundings place (.lines (number + 1) lines) later) :
      Flattens surroundings place (.lines number (line :: lines)) (statements ++ later)
  | nothing : Flattens surroundings place (.line number none) []
  | header : Flattens surroundings place (.line number (some (.header header)))
      [.header header ⟨place.source, number⟩]
  | setting : Flattens surroundings place (.line number (some (.setting setting)))
      [.setting setting]
  | inclusion (files : Flattens surroundings place (.files arguments) statements) :
      Flattens surroundings place (.line number (some (.inclusion arguments))) statements
  | noFile : Flattens surroundings place (.files []) []
  | oneFile (found : includedPath surroundings.home place.directory argument = .ok path)
      (readable : surroundings.files.text path = .ok text)
      (holds : Path.IsDirectoryOf directory path)
      (first : Flattens surroundings ⟨path, directory⟩ (.lines 1 (Text.lines text)) statements)
      (rest : Flattens surroundings place (.files arguments) later) :
      Flattens surroundings place (.files (argument :: arguments)) (statements ++ later)

theorem Flattens.unique {surroundings : Surroundings} {place : Place} {stretch : Stretch}
    {statements others : List Statement}
    (left : Flattens surroundings place stretch statements)
    (right : Flattens surroundings place stretch others) : statements = others := by
  induction left generalizing others with
  | noLine | nothing | header | setting | noFile => cases right; rfl
  | oneLine reads _ _ firstIH restIH =>
      cases right with
      | oneLine otherReads first rest =>
          obtain rfl := Except.ok.inj (reads.symm.trans otherReads)
          rw [firstIH first, restIH rest]
  | inclusion _ filesIH =>
      cases right with
      | inclusion files => exact filesIH files
  | oneFile found readable holds _ _ firstIH restIH =>
      cases right with
      | oneFile otherFound otherReadable otherHolds first rest =>
          obtain rfl := Except.ok.inj (found.symm.trans otherFound)
          obtain rfl := Except.ok.inj (readable.symm.trans otherReadable)
          obtain rfl := holds.unique otherHolds
          rw [firstIH first, restIH rest]

/-- Carries out a statement. -/
def Draft.apply (draft : Draft) : Statement → Draft
  | .header header origin => draft.openBlock header origin
  | .setting setting => draft.changeScope setting.apply

/-- Carries out statements one after the other. -/
def Draft.run (draft : Draft) (statements : List Statement) : Draft :=
  statements.foldl Draft.apply draft

@[simp] theorem Draft.run_nil (draft : Draft) : draft.run [] = draft := rfl

@[simp] theorem Draft.run_cons (draft : Draft) (statement : Statement)
    (statements : List Statement) :
    draft.run (statement :: statements) = (draft.apply statement).run statements := rfl

theorem Draft.run_append (draft : Draft) (statements later : List Statement) :
    draft.run (statements ++ later) = (draft.run statements).run later :=
  List.foldl_append

/-- The draft after a stretch is the one that its statements lead to. -/
def Leads (surroundings : Surroundings) (place : Place) (stretch : Stretch)
    (draft after : Draft) : Prop :=
  ∃ statements, Flattens surroundings place stretch statements ∧ draft.run statements = after

/-- An interpretation does to the draft what the statements of the text do, unless it
fails. -/
def RunsStatements (surroundings : Surroundings) (interpret : Interpretation) : Prop :=
  ∀ place text draft after, interpret place text draft = { draft := after } →
    Leads surroundings place (.lines 1 (Text.lines text)) draft after

section

variable {surroundings : Surroundings} {nested : Option Interpretation} {place : Place}
  {draft after : Draft}
  (inner : ∀ interpret ∈ nested, RunsStatements surroundings interpret)
include inner

theorem includeFiles_leads {arguments : List Text}
    (done : includeFiles surroundings nested place arguments draft = { draft := after }) :
    Leads surroundings place (.files arguments) draft after := by
  induction arguments generalizing draft with
  | nil =>
      cases done
      exact ⟨[], .noFile, rfl⟩
  | cons argument rest ih =>
      obtain ⟨middle, included, others⟩ := Outcome.andThen_eq_done.mp done
      obtain ⟨later, restFlat, ran⟩ := ih others
      unfold includeFile at included
      cases found : includedPath surroundings.home place.directory argument with
      | error cause => simp [found, Outcome.ofResult] at included
      | ok path =>
          cases nested with
          | none => simp [found, Outcome.ofResult] at included
          | some interpret =>
              cases readable : surroundings.files.text path with
              | error failure => simp [found, readable, Outcome.ofResult] at included
              | ok text =>
                  simp only [found, readable] at included
                  split at included
                  · obtain ⟨statements, flat, ran'⟩ := inner interpret rfl _ _ _ _ included
                    have holds := Path.parent_isDirectoryOf path
                    refine ⟨statements ++ later, .oneFile found readable holds flat restFlat, ?_⟩
                    rw [Draft.run_append, ran', ran]
                  · cases included

theorem carryOut_leads {number : Nat} {directive : Directive}
    (done : carryOut surroundings nested place number directive draft =
      { draft := after }) :
    Leads surroundings place (.line number (some directive)) draft after := by
  cases directive with
  | header header =>
      cases done
      exact ⟨_, .header, rfl⟩
  | setting setting =>
      obtain ⟨-, rfl⟩ := Draft.set_eq_ok.mp (Outcome.ofResult_eq_done.mp done)
      exact ⟨_, .setting, rfl⟩
  | inclusion arguments =>
      obtain ⟨statements, flat, ran⟩ := includeFiles_leads inner done
      exact ⟨statements, .inclusion flat, ran⟩

theorem dispatch_leads {number : Nat} {keyword : Keyword} {arguments : List Text}
    (done : dispatch surroundings nested place number keyword arguments draft =
      { draft := after }) :
    ∃ directive, Directive.read keyword arguments = .ok directive ∧
      Leads surroundings place (.line number (some directive)) draft after := by
  unfold dispatch at done
  split at done
  · cases done
  · rename_i directive reads
    exact ⟨directive, reads, carryOut_leads inner done⟩

theorem interpretLine_leads {number : Nat} {line : Text}
    (done : interpretLine surroundings nested place number line draft = { draft := after }) :
    ∃ request, Directive.ofLine line = .ok request ∧
      Leads surroundings place (.line number request) draft after := by
  rw [interpretLine_eq] at done
  split at done
  · cases done
  · rename_i reads
    cases done
    exact ⟨none, reads, [], .nothing, rfl⟩
  · rename_i directive reads
    exact ⟨some directive, reads, carryOut_leads inner done⟩

theorem interpretLines_leads {number : Nat} {lines : List Text}
    (done : interpretLines surroundings nested place number lines draft =
      { draft := after }) :
    Leads surroundings place (.lines number lines) draft after := by
  induction lines generalizing number draft with
  | nil =>
      cases done
      exact ⟨[], .noLine, rfl⟩
  | cons line rest ih =>
      obtain ⟨middle, first, others⟩ := Outcome.andThen_eq_done.mp done
      obtain ⟨request, reads, statements, flat, ran⟩ :=
        interpretLine_leads inner (Outcome.within_eq_done.mp first)
      obtain ⟨later, restFlat, ran'⟩ := ih others
      refine ⟨statements ++ later, .oneLine reads flat restFlat, ?_⟩
      rw [Draft.run_append, ran, ran']

end

/-- At every level of inclusion an interpretation carries out flattened statements. -/
theorem interpret_runsStatements (surroundings : Surroundings) (levels : Nat) :
    RunsStatements surroundings (interpret surroundings levels) :=
  interpret_induction surroundings
    (fun _ inner _ _ _ _ done => interpretLines_leads inner done) levels

end SshConfig
