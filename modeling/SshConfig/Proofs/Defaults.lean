import SshConfig.Presentation
import SshConfig.Proofs.Resolution
import SshConfig.Proofs.Sections

namespace SshConfig

/-! Resolved options over defaults.

What is entered under a key after resolved options are merged over defaults is told from the settings
that apply to the connection: those of global scope and those of the blocks that apply.  A single
value takes the place of a default if one of these settings gives it.  The identity files always do,
also where there are none.
-/

namespace Record

variable {α : Type} (record : Record α) (key other : Text) (value : α)

def get? : Option α :=
  record.lookup key

theorem get?_cons (entry : Text × α) :
    get? (entry :: record) key = if entry.1 = key then some entry.2 else get? record key := by
  obtain ⟨first, value⟩ := entry
  by_cases same : first = key
  · simp [get?, same]
  · have later : (key == first) = false := beq_eq_false_iff_ne.mpr (Ne.symm same)
    simp [get?, List.lookup_cons, later, same]

theorem get?_insert :
    (record.insert key value).get? other = if key = other then some value else record.get? other := by
  induction record with
  | nil => exact get?_cons [] other (key, value)
  | cons entry rest ih =>
      unfold insert
      split
      · rename_i same
        rw [get?_cons, get?_cons, same]
        split <;> rfl
      · rename_i different
        rw [get?_cons, get?_cons, ih]
        by_cases first : entry.1 = other
        · have elsewhere : key ≠ other := fun same => different (first.trans same.symm)
          rw [if_pos first, if_neg elsewhere, if_pos first]
        · rw [if_neg first, if_neg first]

theorem get?_of_not_mem (absent : key ∉ record.map Prod.fst) : record.get? key = none := by
  induction record with
  | nil => rfl
  | cons entry rest ih =>
      obtain ⟨first, others⟩ := not_or.mp (mt List.mem_cons.mpr absent)
      rw [get?_cons, if_neg (Ne.symm first), ih others]

theorem get?_merge (later : Record α) (distinct : (later.map Prod.fst).Nodup) :
    (record.merge later).get? key = (later.get? key).or (record.get? key) := by
  induction later generalizing record with
  | nil => rfl
  | cons entry rest ih =>
      obtain ⟨once, others⟩ := List.nodup_cons.mp distinct
      have step : record.merge (entry :: rest) =
          (record.insert entry.1 entry.2).merge rest := rfl
      rw [step, ih _ others, get?_insert, get?_cons]
      by_cases same : entry.1 = key
      · subst same
        rw [get?_of_not_mem rest _ once, if_pos rfl, if_pos rfl]
        rfl
      · rw [if_neg same, if_neg same]

theorem get?_map {β : Type} (embed : α → β) :
    get? (record.map fun entry => (entry.1, embed entry.2)) key = (record.get? key).map embed := by
  induction record with
  | nil => rfl
  | cons entry rest ih =>
      rw [List.map_cons, get?_cons, get?_cons, ih]
      split <;> rfl

end Record

/-- The options, by the keys under which they are entered as data. -/
inductive OptionKey where
  | hostname
  | identityAgent
  | identityFiles
  | port
  | user
deriving DecidableEq, Repr

def OptionKey.all : List OptionKey :=
  [.hostname, .identityAgent, .identityFiles, .port, .user]

def OptionKey.text : OptionKey → Text
  | .hostname => "hostname".toList
  | .identityAgent => "identity_agent".toList
  | .identityFiles => "identity_files".toList
  | .port => "port".toList
  | .user => "user".toList

/-- The value of an option as data, if it is set.  A list is always set. -/
def Options.datum? (options : Options) : OptionKey → Option Datum
  | .hostname => options.hostname.map .text
  | .identityAgent => options.identityAgent.map fun agent => .text agent.text
  | .identityFiles => some (.list options.identityFiles)
  | .port => options.port.map fun number => .number number.toNat
  | .user => options.user.map .text

namespace Options

variable (options : Options)

theorem data_eq_filterMap :
    options.data = OptionKey.all.filterMap fun key =>
      (options.datum? key).map fun datum => (key.text, datum) := by
  obtain ⟨agent, files, hostname, user, port⟩ := options
  cases agent <;> cases hostname <;> cases user <;> cases port <;> rfl

theorem nodup_data : (options.data.map Prod.fst).Nodup := by
  obtain ⟨agent, files, hostname, user, port⟩ := options
  cases agent <;> cases hostname <;> cases user <;> cases port <;> simp [data]

theorem get?_data (key : OptionKey) : options.data.get? key.text = options.datum? key := by
  obtain ⟨agent, files, hostname, user, port⟩ := options
  cases agent <;> cases hostname <;> cases user <;> cases port <;> cases key <;> rfl

theorem get?_data_of_other {key : Text} (other : ∀ name : OptionKey, name.text ≠ key) :
    options.data.get? key = none := by
  refine Record.get?_of_not_mem _ _ fun member => ?_
  obtain ⟨entry, found, rfl⟩ := List.mem_map.mp member
  rw [data_eq_filterMap] at found
  obtain ⟨name, -, given⟩ := List.mem_filterMap.mp found
  obtain ⟨datum, -, rfl⟩ := Option.map_eq_some_iff.mp given
  exact other name rfl

theorem datum?_absorb_eq_none {options later : Options} {key : OptionKey}
    (single : key ≠ .identityFiles) :
    (options.absorb later).datum? key = none ↔
      options.datum? key = none ∧ later.datum? key = none := by
  have filled (held offered : Option Text) :
      fillText held offered = none ↔ held = none ∧ offered = none := by
    rcases held with _ | _ | _ <;> cases offered <;> simp [fillText]
  cases key with
  | identityFiles => exact absurd rfl single
  | hostname | identityAgent | port | user => simp [datum?, absorb, filled]

end Options

def Setting.key : Setting → OptionKey
  | .hostname _ => .hostname
  | .identityAgent _ => .identityAgent
  | .identityFile _ => .identityFiles
  | .port _ => .port
  | .user _ => .user

theorem datum?_ofSources_eq_none {settings : List Setting} {key : OptionKey}
    (single : key ≠ .identityFiles) :
    (Options.ofSources (settings.map Setting.options)).datum? key = none ↔
      ∀ setting ∈ settings, setting.key ≠ key := by
  induction settings with
  | nil => cases key <;> simp_all [Options.datum?]
  | cons setting rest ih =>
      have first : setting.options.datum? key = none ↔ setting.key ≠ key := by
        cases setting <;> cases key <;> simp_all [Setting.options, Options.datum?, Setting.key]
      rw [List.map_cons, Options.ofSources_cons, Options.datum?_absorb_eq_none single, first, ih,
        List.forall_mem_cons]

theorem identityFiles_ofSources_eq_nil {settings : List Setting}
    (none : ∀ setting ∈ settings, setting.key ≠ .identityFiles) :
    (Options.ofSources (settings.map Setting.options)).identityFiles = [] := by
  simp only [Options.ofSources, List.flatMap_map, List.flatMap_eq_nil_iff]
  intro setting member
  have other := none setting member
  cases setting with
  | identityFile path => exact absurd rfl other
  | hostname | identityAgent | port | user => rfl

variable (query : Query) (facts : LocalFacts)

/-- The sections whose blocks apply to a connection. -/
def applying (statements : List Statement) : List Section :=
  (sections statements).filter fun part => part.header.fits query facts

/-- The settings of global scope and of the blocks that apply to a connection. -/
def applyingSettings (statements : List Statement) : List Setting :=
  leading statements ++ (applying query facts statements).flatMap Section.settings

theorem resolve_matched_ofStatements (source : Text) (statements : List Statement) :
    ((Config.ofStatements source statements).resolve query facts).matched =
      (applying query facts statements).map Section.block := by
  rw [Config.resolve_matched, Config.ofStatements, List.filter_map]
  rfl

theorem resolve_options_ofStatements (source : Text) (statements : List Statement) :
    ((Config.ofStatements source statements).resolve query facts).options =
      Options.ofSources ((applyingSettings query facts statements).map Setting.options) := by
  have groups : (Config.ofStatements source statements).options ::
      ((applying query facts statements).map Section.block).map Block.options =
      ((leading statements :: (applying query facts statements).map Section.settings).map
        fun settings => settings.map Setting.options).map Options.ofSources := by
    simp [Config.ofStatements, Section.block, Function.comp_def]
  rw [Config.resolve_options, resolve_matched_ofStatements, groups, Options.ofSources_map_ofSources,
    ← List.map_flatten, List.flatten_cons, ← List.flatMap_def]
  rfl

theorem get?_mergeOver {α : Type} (resolution : Resolution) (embed : Datum → α)
    (defaults : Record α) (key : Text) :
    (resolution.mergeOver embed defaults).get? key =
      ((resolution.options.data.get? key).map embed).or (defaults.get? key) := by
  have distinct : ((resolution.options.data.map fun entry => (entry.1, embed entry.2)).map
      Prod.fst).Nodup := by
    simpa [Function.comp_def] using resolution.options.nodup_data
  rw [Resolution.mergeOver, Record.get?_merge _ _ _ distinct, Record.get?_map]

/-- What is entered under each key after `options`, which come of the given settings, were merged
over defaults. -/
structure MergedOver {α : Type} (embed : Datum → α) (defaults : Record α) (given : List Setting)
    (options : Options) (merged : Record α) : Prop where
  /-- A single value that no setting gives leaves the default, or its absence. -/
  unset : ∀ key, key ≠ .identityFiles → (∀ setting ∈ given, setting.key ≠ key) →
    merged.get? key.text = defaults.get? key.text
  set : ∀ key, (∃ setting ∈ given, setting.key = key) →
    ∃ value, options.datum? key = some value ∧ merged.get? key.text = some (embed value)
  /-- The list of identity files takes the place of the default in any case. -/
  files : merged.get? OptionKey.identityFiles.text = some (embed (.list options.identityFiles))
  noFiles : (∀ setting ∈ given, setting.key ≠ .identityFiles) → options.identityFiles = []
  others : ∀ key, (∀ name : OptionKey, name.text ≠ key) → merged.get? key = defaults.get? key

theorem mergedOver_of_settings {α : Type} (embed : Datum → α) (defaults : Record α)
    {given : List Setting} {resolution : Resolution}
    (resolved : resolution.options = Options.ofSources (given.map Setting.options)) :
    MergedOver embed defaults given resolution.options
      (resolution.mergeOver embed defaults) where
  unset key single none := by
    have absent : resolution.options.datum? key = .none := by
      rw [resolved]
      exact (datum?_ofSources_eq_none single).mpr none
    rw [get?_mergeOver, Options.get?_data, absent]
    rfl
  set key some := by
    obtain ⟨setting, member, same⟩ := some
    have present : resolution.options.datum? key ≠ none := by
      by_cases single : key = .identityFiles
      · subst single
        exact Option.some_ne_none _
      · rw [resolved]
        exact fun none => (datum?_ofSources_eq_none single).mp none setting member same
    obtain ⟨value, found⟩ := Option.ne_none_iff_exists'.mp present
    refine ⟨value, found, ?_⟩
    rw [get?_mergeOver, Options.get?_data, found]
    rfl
  files := by
    rw [get?_mergeOver, Options.get?_data]
    rfl
  noFiles none := by
    rw [resolved]
    exact identityFiles_ofSources_eq_nil none
  others key other := by
    rw [get?_mergeOver, Options.get?_data_of_other _ other]
    rfl

/-- Defaults stay under the keys of single values that neither global scope nor a block that applies
sets, and under all other keys, but never under the key of the identity files. -/
theorem mergeOver_of_parsed {α : Type} {surroundings : Surroundings} {place : Place} {text : Text}
    {config : Config} (parsed : parseAt surroundings place text = .ok config) (embed : Datum → α)
    (defaults : Record α) :
    let resolution := config.resolve query facts
    ∃ statements, Flattens surroundings place (.lines 1 (Text.lines text)) statements ∧
      resolution.matched = (applying query facts statements).map Section.block ∧
      MergedOver embed defaults (applyingSettings query facts statements) resolution.options
        (resolution.mergeOver embed defaults) := by
  obtain ⟨statements, flat, rfl⟩ := parseAt_eq_ofStatements parsed
  refine ⟨statements, flat, resolve_matched_ofStatements query facts _ statements, ?_⟩
  exact mergedOver_of_settings embed defaults
    (resolve_options_ofStatements query facts place.source statements)

/-- The user comes from global scope and the port from a block that applies. -/
theorem mergeOver_of_parsed_matched :
    let text := "User u\nHost b\nHostname h\nHost a*\nPort 2".toList
    let surroundings : Surroundings := ⟨fun _ => .error .notFound, {}⟩
    let place : Place := ⟨"<string>".toList, "/".toList⟩
    let config : Config :=
      { options := { user := some ['u'] }
        blocks :=
          [⟨.host [⟨['b'], false⟩], ⟨"<string>".toList, 2⟩, { hostname := some ['h'] }⟩,
            ⟨.host [⟨"a*".toList, false⟩], ⟨"<string>".toList, 4⟩, { port := some 2 }⟩]
        source := "<string>".toList }
    let resolution := config.resolve { host := "ab".toList } {}
    let defaults : Record Datum :=
      [("hostname".toList, .text ['d']), ("port".toList, .number 22), (['k'], .list [])]
    parseAt surroundings place text = .ok config ∧
      ∃ statements, Flattens surroundings place (.lines 1 (Text.lines text)) statements ∧
        resolution.matched =
          (applying { host := "ab".toList } {} statements).map Section.block ∧
        MergedOver id defaults (applyingSettings { host := "ab".toList } {} statements)
          resolution.options (resolution.mergeOver id defaults) := by
  intro text surroundings place config resolution defaults
  have parsed : parseAt surroundings place text = .ok config := rfl
  exact ⟨parsed, mergeOver_of_parsed _ _ parsed id defaults⟩

/-- An empty configuration has no setting for identity files, and yet the default is gone. -/
theorem mergeOver_default_identityFiles :
    let surroundings : Surroundings := ⟨fun _ => .error .notFound, {}⟩
    let config : Config := { source := "<string>".toList }
    let resolution := config.resolve { host := ['x'] } {}
    let defaults : Record Datum := [(OptionKey.identityFiles.text, .list [['k']])]
    parseText surroundings ['/'] [] = .ok config ∧
      Flattens surroundings ⟨"<string>".toList, ['/']⟩ (.lines 1 (Text.lines [])) [] ∧
      applyingSettings { host := ['x'] } {} [] = [] ∧
      (resolution.mergeOver id defaults).get? OptionKey.identityFiles.text = some (.list []) ∧
      defaults.get? OptionKey.identityFiles.text = some (.list [['k']]) :=
  ⟨rfl, .noLine, rfl, rfl, rfl⟩

end SshConfig
