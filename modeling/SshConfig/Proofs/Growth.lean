import SshConfig.Proofs.Extension
import SshConfig.Proofs.WellFormed
import Mathlib.Data.List.Basic

namespace SshConfig

/-! How a draft grows.

Every step of a session, and every part of it that was carried out before it failed, adds to
what is there: blocks stay in their places, options that are set stay set, and the current
block is never one that was opened earlier.  For the last of these it is essential that the
block that is current before a text is read is one of those that there are.
-/

structure Block.ExtendedBy (block later : Block) : Prop where
  header : later.header = block.header
  origin : later.origin = block.origin
  options : block.options.ExtendedBy later.options

structure Draft.ExtendedBy (draft later : Draft) : Prop where
  source : later.config.source = draft.config.source
  options : draft.config.options.ExtendedBy later.config.options
  blocks : ∀ (index : Nat) (block : Block), draft.config.blocks[index]? = some block →
    ∃ grown, later.config.blocks[index]? = some grown ∧ block.ExtendedBy grown
  current : ∀ index, draft.current = some index →
    ∃ next, later.current = some next ∧ index ≤ next

/-- Whether at most the options in scope are other ones, or there is one more block. -/
inductive Draft.ChangesOnce (draft : Draft) : Draft → Prop where
  | unchanged : ChangesOnce draft draft
  | globalOptions (options : Options) (noBlock : draft.current = none) :
      ChangesOnce draft { draft with config := { draft.config with options } }
  | blockOptions (options : Options) (current : draft.current = some index)
      (found : draft.config.blocks[index]? = some block) :
      ChangesOnce draft { draft with config := { draft.config with
        blocks := draft.config.blocks.set index { block with options } } }
  | newBlock (block : Block) :
      ChangesOnce draft
        { config := { draft.config with blocks := draft.config.blocks ++ [block] }
          current := some draft.config.blocks.length }

theorem Options.ExtendedBy.refl (options : Options) : options.ExtendedBy options := by
  simpa using extendedBy_absorb options {}

theorem Setting.extendedBy_apply (setting : Setting) (options : Options) :
    options.ExtendedBy (setting.apply options) := by
  rw [apply_eq_absorb]
  exact Options.extendedBy_absorb _ _

theorem Block.ExtendedBy.refl (block : Block) : block.ExtendedBy block :=
  ⟨rfl, rfl, .refl _⟩

theorem Block.ExtendedBy.trans {block middle later : Block} (first : block.ExtendedBy middle)
    (second : middle.ExtendedBy later) : block.ExtendedBy later :=
  ⟨second.header.trans first.header, second.origin.trans first.origin,
    first.options.trans second.options⟩

namespace Draft

variable {draft middle after : Draft}

theorem ExtendedBy.refl (draft : Draft) : draft.ExtendedBy draft where
  source := rfl
  options := .refl _
  blocks _ block found := ⟨block, found, .refl block⟩
  current index current := ⟨index, current, Nat.le_refl index⟩

theorem ExtendedBy.trans (first : draft.ExtendedBy middle) (second : middle.ExtendedBy after) :
    draft.ExtendedBy after where
  source := second.source.trans first.source
  options := first.options.trans second.options
  blocks index block found := by
    obtain ⟨grown, foundGrown, extended⟩ := first.blocks index block found
    obtain ⟨last, foundLast, extendedLast⟩ := second.blocks index grown foundGrown
    exact ⟨last, foundLast, extended.trans extendedLast⟩
  current index current := by
    obtain ⟨next, currentNext, forward⟩ := first.current index current
    obtain ⟨last, currentLast, forwardLast⟩ := second.current next currentNext
    exact ⟨last, currentLast, Nat.le_trans forward forwardLast⟩

theorem WellFormed.extendedBy_openBlock (wellFormed : draft.WellFormed) (header : Header)
    (origin : Origin) : draft.ExtendedBy (draft.openBlock header origin) where
  source := rfl
  options := .refl _
  blocks index block found := by
    obtain ⟨inside, -⟩ := List.getElem?_eq_some_iff.mp found
    refine ⟨block, ?_, .refl block⟩
    simp only [Draft.openBlock, List.getElem?_append_left inside, found]
  current index current :=
    ⟨draft.config.blocks.length, rfl, Nat.le_of_lt (wellFormed.current index current)⟩

theorem extendedBy_changeScope (draft : Draft) (setting : Setting) :
    draft.ExtendedBy (draft.changeScope setting.apply) where
  source := by simp
  options := by
    rw [changeScope_options]
    split
    · exact setting.extendedBy_apply _
    · exact .refl _
  blocks index block found := by
    refine ⟨_, by rw [changeScope_getElem?, found, Option.map_some], ?_⟩
    split
    · exact ⟨rfl, rfl, setting.extendedBy_apply _⟩
    · exact .refl block
  current index current := ⟨index, by simpa using current, Nat.le_refl index⟩

theorem Advances.extendedBy (advances : draft.Advances after) (wellFormed : draft.WellFormed) :
    draft.ExtendedBy after := by
  induction advances with
  | unchanged => exact .refl _
  | header reads => exact wellFormed.extendedBy_openBlock _ _
  | setting reads accepted =>
      obtain ⟨-, rfl⟩ := set_eq_ok.mp accepted
      exact extendedBy_changeScope _ _
  | abandoned inside ih =>
      exact { ih wellFormed with current := (ExtendedBy.refl _).current }
  | trans first second firstIH secondIH =>
      exact (firstIH wellFormed).trans (secondIH (first.wellFormed wellFormed))

theorem WellFormed.changesOnce_changeScope (wellFormed : draft.WellFormed)
    (change : Options → Options) : draft.ChangesOnce (draft.changeScope change) := by
  unfold changeScope
  rw [wellFormed.scope_eq]
  split
  · rename_i noBlock
    exact .globalOptions _ noBlock
  · rename_i index current
    have inside := wellFormed.current index current
    have found := List.getElem?_eq_getElem inside
    rw [List.modify_eq_set_getElem?, found]
    exact .blockOptions _ current found

end Draft

theorem dispatch_changesOnce {surroundings : Surroundings} {nested : Option Interpretation}
    {place : Place} {keyword : Keyword} {draft : Draft} (line : Nat) (arguments : List Text)
    (other : keyword ≠ .inclusion) (wellFormed : draft.WellFormed) :
    draft.ChangesOnce
      (dispatch surroundings nested place line keyword arguments draft).draft := by
  rcases dispatch_of_ne_inclusion surroundings nested place other with
    ⟨cause, same⟩ | ⟨header, reads, opened⟩ | ⟨setting, after, reads, accepted, changed⟩
  · rw [same]
    exact .unchanged
  · rw [opened]
    exact .newBlock _
  · obtain ⟨-, rfl⟩ := Draft.set_eq_ok.mp accepted
    rw [changed]
    exact wellFormed.changesOnce_changeScope _

/-- No step of a session takes back or overwrites anything, whether it fails or not; and a
directive other than an inclusion does one thing only. -/
theorem Session.perform_extendedBy (surroundings : Surroundings) (place : Place) (depth : Nat)
    (source : Text) (steps : List Step) (step : Step) :
    let before := (fresh surroundings place depth source).run steps
    let after := (before.perform step).1
    before.draft.ExtendedBy after.draft ∧
      (after.place = before.place ∧ after.depth = before.depth) ∧
      ∀ keyword arguments line, step = .dispatch keyword arguments line →
        keyword ≠ .inclusion → before.draft.ChangesOnce after.draft := by
  intro before after
  have wellFormed : before.draft.WellFormed :=
    run_wellFormed steps (fresh_wellFormed surroundings place depth source)
  refine ⟨(before.perform_advances step).extendedBy wellFormed, ?_, ?_⟩
  · cases step <;> exact ⟨rfl, rfl⟩
  · rintro keyword arguments line rfl other
    exact dispatch_changesOnce line arguments other wellFormed

end SshConfig
