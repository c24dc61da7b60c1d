import SshConfig.Proofs.Interpretation

namespace SshConfig

/-! Two interpretations side by side.

Where two interpretations begin with drafts that correspond, and the files that they include
correspond, so does all that they do: a draft is only ever changed by headers and settings, and
outcomes are put together in the same way on both sides.  What it is to correspond is left open.
-/

namespace Outcome

/-- The outcome of a file as it is seen from the line that includes it. -/
def leaving (path : Path) (before : Draft) (inner : Outcome) : Outcome :=
  match inner.failure with
  | none => inner
  | some failure =>
      { draft := { inner.draft with current := before.current }
        failure := some (failure.within (.file path)) }

end Outcome

theorem includeFile_eq_leaving {surroundings : Surroundings} {interpret : Interpretation}
    {place : Place} {argument : Text} {path : Path} {text : Text} (draft : Draft)
    (found : includedPath surroundings.home place.directory argument = .ok path)
    (readable : surroundings.files.text path = .ok text) :
    includeFile surroundings (some interpret) place argument draft =
      (interpret (.ofFile path) text draft).leaving path draft := by
  simp only [includeFile, found, readable]
  rfl

/-- How included files are interpreted where inclusion may go the given number of levels deep. -/
def included (surroundings : Surroundings) : Nat → Option Interpretation
  | 0 => none
  | levels + 1 => some (interpret surroundings levels)

theorem interpret_eq (surroundings : Surroundings) (levels : Nat) (place : Place) (text : Text)
    (draft : Draft) :
    interpret surroundings levels place text draft =
      interpretLines surroundings (included surroundings levels) place 1 (Text.lines text)
        draft := by
  cases levels <;> rfl

/-- Relations of drafts and of outcomes that everything keeps of which an interpretation is put
together. -/
structure Correspondence (drafts : Draft → Draft → Prop) (outcomes : Outcome → Outcome → Prop) :
    Prop where
  done : drafts draft other → outcomes { draft } { draft := other }
  refused : drafts draft other →
    outcomes (.ofResult draft (.error cause)) (.ofResult other (.error cause))
  openBlock : drafts draft other →
    drafts (draft.openBlock header origin) (other.openBlock header origin)
  set : drafts draft other →
    outcomes (.ofResult draft (draft.set setting)) (.ofResult other (other.set setting))
  andThen : outcomes left right →
    (∀ draft other, drafts draft other → outcomes (next draft) (last other)) →
    outcomes (left.andThen next) (right.andThen last)
  within : outcomes left right → outcomes (left.within layer) (right.within layer)
  leaving : drafts draft other → outcomes left right →
    outcomes (left.leaving path draft) (right.leaving path other)

namespace Correspondence

variable {drafts : Draft → Draft → Prop} {outcomes : Outcome → Outcome → Prop}
  {surroundings : Surroundings} {nested others : Option Interpretation} {place : Place}

/-- Whether two interpretations take drafts that correspond to outcomes that do. -/
def Relates (drafts : Draft → Draft → Prop) (outcomes : Outcome → Outcome → Prop)
    (interpret other : Interpretation) : Prop :=
  ∀ place text left right, drafts left right →
    outcomes (interpret place text left) (other place text right)

/-- Whether the file that an argument names does, included in either way. -/
def RelatesFiles (drafts : Draft → Draft → Prop) (outcomes : Outcome → Outcome → Prop)
    (surroundings : Surroundings) (nested others : Option Interpretation) (place : Place) :
    Prop :=
  ∀ argument left right, drafts left right →
    outcomes (includeFile surroundings nested place argument left)
      (includeFile surroundings others place argument right)

variable (correspondence : Correspondence drafts outcomes)
include correspondence

theorem relates_includeFile_none :
    RelatesFiles drafts outcomes surroundings none none place := by
  intro argument left right start
  unfold includeFile
  cases includedPath surroundings.home place.directory argument <;>
    exact correspondence.refused start

theorem relates_includeFile_some {interpret other : Interpretation}
    (inner : Relates drafts outcomes interpret other) :
    RelatesFiles drafts outcomes surroundings (some interpret) (some other) place := by
  intro argument left right start
  cases found : includedPath surroundings.home place.directory argument with
  | error cause =>
      simp only [includeFile, found]
      exact correspondence.refused start
  | ok path =>
      cases readable : surroundings.files.text path with
      | error reason =>
          simp only [includeFile, found, readable]
          exact correspondence.refused start
      | ok text =>
          rw [includeFile_eq_leaving left found readable,
            includeFile_eq_leaving right found readable]
          exact correspondence.leaving start (inner _ text left right start)

variable (files : RelatesFiles drafts outcomes surroundings nested others place)
include files

theorem relates_includeFiles {left right : Draft} (arguments : List Text)
    (start : drafts left right) :
    outcomes (includeFiles surroundings nested place arguments left)
      (includeFiles surroundings others place arguments right) := by
  induction arguments generalizing left right with
  | nil => exact correspondence.done start
  | cons argument rest ih =>
      exact correspondence.andThen (files argument left right start) fun _ _ => ih

theorem relates_carryOut {left right : Draft} (number : Nat) (directive : Directive)
    (start : drafts left right) :
    outcomes (carryOut surroundings nested place number directive left)
      (carryOut surroundings others place number directive right) := by
  cases directive with
  | header header => exact correspondence.done (correspondence.openBlock start)
  | setting setting => exact correspondence.set start
  | inclusion arguments => exact correspondence.relates_includeFiles files arguments start

theorem relates_interpretLine {left right : Draft} (number : Nat) (line : Text)
    (start : drafts left right) :
    outcomes (interpretLine surroundings nested place number line left)
      (interpretLine surroundings others place number line right) := by
  rw [interpretLine_eq, interpretLine_eq]
  split
  · exact correspondence.refused start
  · exact correspondence.done start
  · exact correspondence.relates_carryOut files number _ start

theorem relates_interpretLines {left right : Draft} (number : Nat) (lines : List Text)
    (start : drafts left right) :
    outcomes (interpretLines surroundings nested place number lines left)
      (interpretLines surroundings others place number lines right) := by
  induction lines generalizing number left right with
  | nil => exact correspondence.done start
  | cons line rest ih =>
      have first := correspondence.relates_interpretLine files number line start
      exact correspondence.andThen (correspondence.within first) fun _ _ => ih (number + 1)

omit files in
/-- Interpretations correspond, the second of which may go some levels deeper, where the files
do that are named on the deepest level of the first. -/
theorem relates_interpret (levels deeper : Nat)
    (deepest : ∀ place, RelatesFiles drafts outcomes surroundings none
      (included surroundings deeper) place) :
    Relates drafts outcomes (interpret surroundings levels)
      (interpret surroundings (levels + deeper)) := by
  induction levels with
  | zero =>
      intro place text left right start
      rw [Nat.zero_add, interpret_eq, interpret_eq]
      exact correspondence.relates_interpretLines (deepest place) 1 _ start
  | succ levels ih =>
      intro place text left right start
      rw [Nat.succ_add, interpret_eq, interpret_eq]
      have files : RelatesFiles drafts outcomes surroundings
          (included surroundings (levels + 1)) (included surroundings (levels + deeper + 1))
          place := correspondence.relates_includeFile_some ih
      exact correspondence.relates_interpretLines files 1 _ start

end Correspondence

end SshConfig
