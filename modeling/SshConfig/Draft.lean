import SshConfig.Directive

namespace SshConfig

/-! A configuration in the making.

A draft is extended block by block and setting by setting.  Nothing that it holds is
ever taken back, and a directive that cannot be carried out leaves it as it was.
-/

/-- What was read so far, and the place of the block that settings go to.  Before the
first block they go to global scope. -/
structure Draft where
  config : Config := {}
  current : Option Nat := none
deriving DecidableEq, Repr, Inhabited

namespace Draft

/-- Appends a block without options and makes it the current one. -/
def openBlock (draft : Draft) (header : Header) (origin : Origin) : Draft where
  config := { draft.config with
    blocks := draft.config.blocks ++ [{ header, origin, options := {} }] }
  current := some draft.config.blocks.length

/-- The place of the block that settings go to.  They go to global scope if there is none,
and they would if no block were found at the current place. -/
def scope (draft : Draft) : Option Nat :=
  draft.current.filter fun index => index < draft.config.blocks.length

/-- Changes the options in scope. -/
def changeScope (draft : Draft) (change : Options → Options) : Draft :=
  match draft.scope with
  | none => { draft with
      config := { draft.config with options := change draft.config.options } }
  | some index => { draft with
      config := { draft.config with
        blocks := draft.config.blocks.modify index fun block =>
          { block with options := change block.options } } }

/-- Carries out a setting. -/
def set (draft : Draft) (setting : Setting) : Except ConfigError Draft :=
  if setting.needsBlock && draft.scope.isNone then
    .error (.outsideBlock setting.keyword)
  else .ok (draft.changeScope setting.apply)

/-- Whether a draft is another with a new block, which has no options yet, stands behind
all others and is the current one.  All else is as it was. -/
structure GainsBlock (draft : Draft) (header : Header) (origin : Origin) (after : Draft) :
    Prop where
  blocks : after.config.blocks = draft.config.blocks ++ [⟨header, origin, {}⟩]
  current : after.current = some draft.config.blocks.length
  options : after.config.options = draft.config.options
  source : after.config.source = draft.config.source

theorem gainsBlock_iff {draft after : Draft} {header : Header} {origin : Origin} :
    draft.GainsBlock header origin after ↔ after = draft.openBlock header origin := by
  constructor
  · rintro ⟨blocks, current, options, source⟩
    obtain ⟨⟨_, _, _⟩, _⟩ := after
    subst blocks current options source
    rfl
  · rintro rfl
    exact ⟨rfl, rfl, rfl, rfl⟩

variable (draft : Draft) (change : Options → Options)

@[simp] theorem changeScope_current : (draft.changeScope change).current = draft.current := by
  unfold changeScope
  split <;> rfl

@[simp] theorem changeScope_source :
    (draft.changeScope change).config.source = draft.config.source := by
  unfold changeScope
  split <;> rfl

theorem changeScope_options :
    (draft.changeScope change).config.options =
      if draft.scope = none then change draft.config.options else draft.config.options := by
  unfold changeScope
  split <;> simp [*]

@[simp] theorem changeScope_length :
    (draft.changeScope change).config.blocks.length = draft.config.blocks.length := by
  unfold changeScope
  split <;> simp

theorem changeScope_getElem? (index : Nat) :
    (draft.changeScope change).config.blocks[index]? =
      draft.config.blocks[index]?.map fun block =>
        if draft.scope = some index then { block with options := change block.options }
        else block := by
  unfold changeScope
  split <;> simp [*, List.getElem?_modify]

theorem set_eq_ok {draft after : Draft} {setting : Setting} :
    draft.set setting = .ok after ↔
      (setting.needsBlock = true → draft.scope ≠ none) ∧
        draft.changeScope setting.apply = after := by
  unfold set
  cases setting.needsBlock <;> cases draft.scope <;> simp

end Draft

end SshConfig
