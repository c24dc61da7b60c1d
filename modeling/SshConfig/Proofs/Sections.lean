import SshConfig.Proofs.Flattening
import SshConfig.Proofs.Precedence

namespace SshConfig

/-! The configuration that a sequence of statements describes.

The statements are cut at their headers.  The settings before the first header are those
of global scope, and the settings after a header, up to the next, are those of its block.
A draft reaches the same configuration step by step, because the block that its settings
go to is always the last one.
-/

/-- A header with the settings that stand below it. -/
structure Section where
  header : Header
  origin : Origin
  settings : List Setting
deriving DecidableEq, Repr

def Section.block (part : Section) : Block where
  header := part.header
  origin := part.origin
  options := Options.ofSources (part.settings.map Setting.options)

/-- The settings before the first header. -/
def leading : List Statement → List Setting
  | .setting setting :: rest => setting :: leading rest
  | _ => []

/-- Every header with the settings between it and the next one. -/
def sections : List Statement → List Section
  | [] => []
  | .setting _ :: rest => sections rest
  | .header header origin :: rest => ⟨header, origin, leading rest⟩ :: sections rest

/-- The configuration that statements describe. -/
def Config.ofStatements (source : Text) (statements : List Statement) : Config where
  options := Options.ofSources ((leading statements).map Setting.options)
  blocks := (sections statements).map Section.block
  source

namespace Draft

/-- While the last block is the current one, settings complete it, up to the next header. -/
theorem run_config_of_open (draft : Draft) (kept : List Block) (block : Block)
    (blocks : draft.config.blocks = kept ++ [block])
    (current : draft.current = some kept.length) (statements : List Statement) :
    (draft.run statements).config =
      { draft.config with
        blocks := kept ++ { block with
          options := Options.ofSources
            (block.options :: (leading statements).map Setting.options) } ::
            (sections statements).map Section.block } := by
  -- at a header the block that was open joins those that are kept
  induction statements generalizing draft kept block with
  | nil => simp [leading, sections, Options.ofSources_cons, ← blocks]
  | cons statement rest ih =>
      cases statement with
      | header header origin =>
          have opened : (draft.openBlock header origin).config.blocks =
              (kept ++ [block]) ++ [⟨header, origin, {}⟩] := by simp [openBlock, blocks]
          have last : (draft.openBlock header origin).current =
              some (kept ++ [block]).length := by simp [openBlock, blocks]
          rw [run_cons, apply, ih _ _ _ opened last]
          simp [openBlock, leading, sections, Section.block, Options.ofSources_cons]
      | setting setting =>
          have last : draft.scope = some kept.length := by
            simp [scope, current, blocks, Option.filter]
          have changed : (draft.changeScope setting.apply).config.blocks =
              kept ++ [{ block with options := setting.apply block.options }] := by
            simp [changeScope, last, blocks, List.modify_eq_take_cons_drop]
          have same : (draft.changeScope setting.apply).current = some kept.length := by
            simp [current]
          rw [run_cons, apply, ih _ _ _ changed same]
          simp [changeScope, last, leading, sections, Options.ofSources_cons,
            Setting.apply_eq_absorb, Options.absorb_assoc]

/-- Before the first block settings complete the options of global scope. -/
theorem run_config_of_global (draft : Draft) (blocks : draft.config.blocks = [])
    (current : draft.current = none) (statements : List Statement) :
    (draft.run statements).config =
      { draft.config with
        options := Options.ofSources
          (draft.config.options :: (leading statements).map Setting.options)
        blocks := (sections statements).map Section.block } := by
  induction statements generalizing draft with
  | nil => simp [leading, sections, Options.ofSources_cons, ← blocks]
  | cons statement rest ih =>
      cases statement with
      | header header origin =>
          have opened : (draft.openBlock header origin).config.blocks =
              [] ++ [⟨header, origin, {}⟩] := by simp [openBlock, blocks]
          have last : (draft.openBlock header origin).current = some ([] : List Block).length := by
            simp [openBlock, blocks]
          rw [run_cons, apply, run_config_of_open _ _ _ opened last]
          simp [openBlock, leading, sections, Section.block, Options.ofSources_cons]
      | setting setting =>
          have global : draft.scope = Option.none := by simp [scope, current]
          have none : (draft.changeScope setting.apply).config.blocks = [] := by
            simp [changeScope, global, blocks]
          have same : (draft.changeScope setting.apply).current = Option.none := by
            simp [current]
          rw [run_cons, apply, ih _ none same]
          simp [changeScope, global, leading, sections, Options.ofSources_cons,
            Setting.apply_eq_absorb, Options.absorb_assoc]

theorem run_config (source : Text) (statements : List Statement) :
    (run { config := { source } } statements).config =
      Config.ofStatements source statements := by
  rw [run_config_of_global _ rfl rfl]
  simp [Config.ofStatements, Options.ofSources_cons]

end Draft

/-- The flattened form of a text that is parsed without failure, and what it describes. -/
theorem parseAt_eq_ofStatements {surroundings : Surroundings} {place : Place} {text : Text}
    {config : Config} (parsed : parseAt surroundings place text = .ok config) :
    ∃ statements, Flattens surroundings place (.lines 1 (Text.lines text)) statements ∧
      config = Config.ofStatements place.source statements := by
  obtain ⟨draft, ran, rfl⟩ := parseAt_eq_ok.mp parsed
  obtain ⟨statements, flat, rfl⟩ := interpret_runsStatements _ _ _ _ _ _ ran
  exact ⟨statements, flat, Draft.run_config _ _⟩

/-- A text that is parsed without failure has one flattened form, and its configuration is
the one that those statements describe, whatever files they come from. -/
theorem parseText_eq_ofStatements {surroundings : Surroundings} {directory : Path}
    {text : Text} {config : Config}
    (parsed : parseText surroundings directory text = .ok config) :
    ∃ statements,
      (∀ others, Flattens surroundings ⟨"<string>".toList, directory⟩
        (.lines 1 (Text.lines text)) others ↔ others = statements) ∧
      config = Config.ofStatements "<string>".toList statements := by
  obtain ⟨statements, flat, same⟩ := parseAt_eq_ofStatements parsed
  refine ⟨statements, fun others => ⟨fun other => other.unique flat, ?_⟩, same⟩
  rintro rfl
  exact flat

/-- A stretch of settings goes on through the start and the end of included files, the second of
which is looked for in the directory of the first. -/
theorem parseText_eq_ofStatements_inclusion :
    let outer := "Port 2\nInclude two".toList.map Char.toUInt8
    let inner := "Hostname n\nHost b".toList.map Char.toUInt8
    let files : FileSystem := fun path =>
      if path = "/c/d/one".toList then .ok outer
      else if path = "/c/d/two".toList then .ok inner
      else .error .notFound
    let surroundings : Surroundings := ⟨files, {}⟩
    let config : Config :=
      { blocks :=
          [⟨.host [⟨['a'], false⟩], ⟨"<string>".toList, 1⟩,
              { port := some 2, hostname := some ['n'] }⟩,
            ⟨.host [⟨['b'], false⟩], ⟨"/c/d/two".toList, 2⟩, { user := some ['u'] }⟩]
        source := "<string>".toList }
    let text := "Host a\nInclude d/one\nUser u".toList
    parseText surroundings "/c".toList text = .ok config ∧
      ∃ statements,
        (∀ others, Flattens surroundings ⟨"<string>".toList, "/c".toList⟩
          (.lines 1 (Text.lines text)) others ↔ others = statements) ∧
        config = Config.ofStatements "<string>".toList statements := by
  intro outer inner files surroundings config text
  have parsed : parseText surroundings "/c".toList text = .ok config := rfl
  exact ⟨parsed, parseText_eq_ofStatements parsed⟩

end SshConfig
