import SshConfig.Proofs.Interpretation

namespace SshConfig

/-! What the interpretation of a text can make of a draft, whether it fails or not.

There are three ways in which a draft changes: a header opens a block, a setting that is
accepted changes the options in scope, and a file that fails midway leaves what it read but
takes the current block back.  Whatever every one of these preserves is preserved by every
text and every directive, at any depth of inclusion.
-/

inductive Draft.Advances : Draft → Draft → Prop where
  | unchanged : Advances draft draft
  | header (reads : Directive.read keyword arguments = .ok (.header header)) :
      Advances draft (draft.openBlock header origin)
  | setting (reads : Directive.read keyword arguments = .ok (.setting setting))
      (accepted : draft.set setting = .ok after) : Advances draft after
  | abandoned (inside : Advances draft after) :
      Advances draft { after with current := draft.current }
  | trans (first : Advances draft middle) (second : Advances middle after) :
      Advances draft after

/-- Whether the interpretation does nothing else to a draft. -/
def Interpretation.Advancing (interpret : Interpretation) : Prop :=
  ∀ place text (draft : Draft), draft.Advances (interpret place text draft).draft

variable {surroundings : Surroundings} {nested : Option Interpretation} {place : Place}
  {draft : Draft}

theorem Outcome.advances_andThen {outcome : Outcome} {next : Draft → Outcome}
    (first : draft.Advances outcome.draft)
    (second : ∀ middle : Draft, middle.Advances (next middle).draft) :
    draft.Advances (outcome.andThen next).draft := by
  rcases outcome with ⟨middle, _ | failure⟩
  · exact first.trans (second middle)
  · exact first

section

variable (inner : ∀ interpret ∈ nested, Interpretation.Advancing interpret)
include inner

theorem includeFile_advances (argument : Text) (draft : Draft) :
    draft.Advances (includeFile surroundings nested place argument draft).draft := by
  unfold includeFile
  split
  · exact .unchanged
  · rename_i path found
    cases nested with
    | none => exact .unchanged
    | some interpret =>
        cases readable : surroundings.files.text path with
        | error reason => exact .unchanged
        | ok text =>
            have inside := inner interpret rfl (.ofFile path) text draft
            dsimp only
            split
            · exact inside
            · exact .abandoned inside

theorem includeFiles_advances (arguments : List Text) (draft : Draft) :
    draft.Advances (includeFiles surroundings nested place arguments draft).draft := by
  induction arguments generalizing draft with
  | nil => exact .unchanged
  | cons argument rest ih =>
      exact Outcome.advances_andThen (includeFile_advances inner argument draft) ih

theorem dispatch_advances (line : Nat) (keyword : Keyword) (arguments : List Text)
    (draft : Draft) :
    draft.Advances
      (dispatch surroundings nested place line keyword arguments draft).draft := by
  by_cases inclusion : keyword = .inclusion
  · subst inclusion
    exact includeFiles_advances inner arguments draft
  · rcases dispatch_of_ne_inclusion surroundings nested place inclusion with
      ⟨cause, same⟩ | ⟨header, reads, opened⟩ | ⟨setting, after, reads, accepted, changed⟩
    · rw [same]
      exact .unchanged
    · rw [opened]
      exact .header reads
    · rw [changed]
      exact .setting reads accepted

theorem interpretLine_advances (number : Nat) (line : Text) (draft : Draft) :
    draft.Advances (interpretLine surroundings nested place number line draft).draft := by
  unfold interpretLine
  split
  · exact .unchanged
  · exact .unchanged
  · exact .unchanged
  · exact dispatch_advances inner ..

theorem interpretLines_advances (number : Nat) (lines : List Text) (draft : Draft) :
    draft.Advances (interpretLines surroundings nested place number lines draft).draft := by
  induction lines generalizing number draft with
  | nil => exact .unchanged
  | cons line rest ih =>
      exact Outcome.advances_andThen (interpretLine_advances inner number line draft)
        (ih (number + 1))

end

theorem interpret_advancing (surroundings : Surroundings) (levels : Nat) :
    (interpret surroundings levels).Advancing :=
  interpret_induction surroundings
    (fun _ inner _ _ draft => interpretLines_advances inner 1 _ draft) levels

theorem Session.perform_advances (session : Session) (step : Step) :
    session.draft.Advances (session.perform step).1.draft := by
  cases step with
  | parse text => exact interpret_advancing session.surroundings _ _ _ _
  | dispatch keyword arguments line =>
      exact dispatch_advances
        (session.nested_property (interpret_advancing session.surroundings)) ..

end SshConfig
