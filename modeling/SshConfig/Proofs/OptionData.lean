import SshConfig.Proofs.Defaults
import SshConfig.Proofs.WellFormed

namespace SshConfig

/-! What options as data and as a table tell of the options.

Agents are entered as texts, which do not tell them apart in general.  But an agent is read from an
argument, so it names one environment variable only, and the path of a socket never reads `none`.
This holds of all options that come from a session, failures included, and options that are resolved
from them have no other agents.
-/

namespace IdentityAgent

/-- Whether two agents differ at most as a variable and a path that is written like it. -/
def ShownAlike (left right : Option IdentityAgent) : Prop :=
  left = right ∨
    left = some (.environment "SSH_AUTH_SOCK".toList) ∧
      right = some (.socket "$SSH_AUTH_SOCK".toList) ∨
    left = some (.socket "$SSH_AUTH_SOCK".toList) ∧
      right = some (.environment "SSH_AUTH_SOCK".toList)

variable {agent left right : IdentityAgent}

theorem WellFormed.text_eq_none_iff (wellFormed : agent.WellFormed) :
    agent.text = "none".toList ↔ agent = .disabled := by
  cases agent with
  | disabled => simp [text]
  | environment name => simp [text]
  | socket path =>
      have other : path ≠ "none".toList := by
        rintro rfl
        cases wellFormed.1
      simpa [text] using other

theorem WellFormed.text_eq_iff (first : left.WellFormed) (second : right.WellFormed) :
    left.text = right.text ↔ ShownAlike (some left) (some right) := by
  cases left with
  | disabled =>
      have shown : right.text = "none".toList ↔ right = .disabled := second.text_eq_none_iff
      simpa [ShownAlike, text, eq_comm] using shown
  | environment name =>
      obtain rfl : name = "SSH_AUTH_SOCK".toList := first
      cases right with
      | disabled => simp [ShownAlike, text]
      | environment other =>
          obtain rfl : other = "SSH_AUTH_SOCK".toList := second
          simp [ShownAlike]
      | socket path => simp [ShownAlike, text, eq_comm]
  | socket path =>
      cases right with
      | disabled =>
          have shown := first.text_eq_none_iff
          simpa [ShownAlike, text] using shown
      | environment name =>
          obtain rfl : name = "SSH_AUTH_SOCK".toList := second
          simp [ShownAlike, text]
      | socket other => simp [ShownAlike, text]

theorem map_text_eq_iff {left right : Option IdentityAgent}
    (first : ∀ agent, left = some agent → agent.WellFormed)
    (second : ∀ agent, right = some agent → agent.WellFormed) :
    left.map text = right.map text ↔ ShownAlike left right := by
  rcases left with _ | left <;> rcases right with _ | right
  · simp [ShownAlike]
  · simp [ShownAlike]
  · simp [ShownAlike]
  · simpa using (first left rfl).text_eq_iff (second right rfl)

end IdentityAgent

namespace Record

variable {α : Type} {record : Record α} {key : Text} {value : α}

theorem mem_iff_get? (distinct : (record.map Prod.fst).Nodup) :
    (key, value) ∈ record ↔ record.get? key = some value := by
  induction record with
  | nil => simp [get?]
  | cons entry rest ih =>
      obtain ⟨once, others⟩ := List.nodup_cons.mp distinct
      rw [get?_cons, List.mem_cons, ih others]
      by_cases same : entry.1 = key
      · subst same
        rw [if_pos rfl, get?_of_not_mem rest _ once]
        simp [Prod.ext_iff, eq_comm]
      · have other : (key, value) ≠ entry := fun first => same (first ▸ rfl)
        simp [same, other]

end Record

namespace Options

variable {options later : Options}

theorem data_eq_iff_datum? :
    options.data = later.data ↔ ∀ key, options.datum? key = later.datum? key := by
  constructor
  · intro same key
    rw [← get?_data, ← get?_data, same]
  · intro same
    rw [data_eq_filterMap, data_eq_filterMap, funext same]

theorem ascending_data (options : Options) :
    (options.data.map Prod.fst).Pairwise (· < ·) := by
  -- The keys are in the order of all that there are, some of them left out.
  have kept : (options.data.map Prod.fst).Sublist (OptionKey.all.map OptionKey.text) := by
    rw [data_eq_filterMap]
    generalize OptionKey.all = keys
    induction keys with
    | nil => exact .slnil
    | cons key rest ih =>
        cases given : options.datum? key with
        | none => simpa [given] using ih.cons key.text
        | some datum => simpa [given] using ih
  have ordered : (OptionKey.all.map OptionKey.text).Pairwise (· < ·) := by decide
  exact ordered.sublist kept

/-- Whether options differ at most in agents that are shown alike. -/
structure ShownAlike (options later : Options) : Prop where
  hostname : options.hostname = later.hostname
  user : options.user = later.user
  port : options.port = later.port
  identityFiles : options.identityFiles = later.identityFiles
  identityAgent : IdentityAgent.ShownAlike options.identityAgent later.identityAgent

theorem WellFormed.data_eq_iff (first : options.WellFormed) (second : later.WellFormed) :
    options.data = later.data ↔ options.ShownAlike later := by
  have texts (left right : Option Text) :
      left.map Datum.text = right.map Datum.text ↔ left = right :=
    (Option.map_injective fun _ _ => Datum.text.inj).eq_iff
  have numbers (left right : Option UInt16) :
      (left.map fun number => Datum.number number.toNat) =
        (right.map fun number => Datum.number number.toNat) ↔ left = right :=
    (Option.map_injective fun _ _ same => UInt16.toNat_inj.mp (Datum.number.inj same)).eq_iff
  have agents : options.datum? .identityAgent = later.datum? .identityAgent ↔
      IdentityAgent.ShownAlike options.identityAgent later.identityAgent := by
    rw [← IdentityAgent.map_text_eq_iff first.identityAgent second.identityAgent, ← texts,
      Option.map_map, Option.map_map]
    rfl
  rw [data_eq_iff_datum?]
  constructor
  · intro same
    exact ⟨(texts _ _).mp (same .hostname), (texts _ _).mp (same .user),
      (numbers _ _).mp (same .port), Datum.list.inj (Option.some.inj (same .identityFiles)),
      agents.mp (same .identityAgent)⟩
  · rintro ⟨hostname, user, port, files, agent⟩ key
    cases key with
    | hostname => exact (texts _ _).mpr hostname
    | user => exact (texts _ _).mpr user
    | port => exact (numbers _ _).mpr port
    | identityFiles => exact congrArg (fun files => some (Datum.list files)) files
    | identityAgent => exact agents.mpr agent

theorem get?_data_eq_nil_iff {key : Text} :
    options.data.get? key = some (.list []) ↔
      key = OptionKey.identityFiles.text ∧ options.identityFiles = [] := by
  constructor
  · intro found
    by_cases known : ∃ name : OptionKey, name.text = key
    · obtain ⟨name, rfl⟩ := known
      rw [get?_data] at found
      cases name with
      | identityFiles => exact ⟨rfl, Datum.list.inj (Option.some.inj found)⟩
      | hostname | identityAgent | port | user => simp [datum?] at found
    · rw [get?_data_of_other options fun name same => known ⟨name, same⟩] at found
      cases found
  · rintro ⟨rfl, empty⟩
    rw [get?_data, datum?, empty]

theorem WellFormed.shown_none_iff (wellFormed : options.WellFormed) :
    options.data.get? OptionKey.identityAgent.text = some (.text "none".toList) ↔
      options.identityAgent = some .disabled := by
  rw [get?_data]
  cases held : options.identityAgent with
  | none => simp [datum?, held]
  | some agent =>
      have shown := (wellFormed.identityAgent agent held).text_eq_none_iff
      simpa [datum?, held] using shown

end Options

/-- Whether a draft can be left by steps of a session, whether they succeed or fail. -/
def Draft.Reachable (draft : Draft) : Prop :=
  ∃ surroundings place depth source steps,
    draft = ((Session.fresh surroundings place depth source).run steps).draft

theorem Draft.Reachable.wellFormed {draft : Draft} (reached : draft.Reachable) :
    draft.WellFormed := by
  obtain ⟨surroundings, place, depth, source, steps, rfl⟩ := reached
  exact Session.run_wellFormed steps (Session.fresh_wellFormed surroundings place depth source)

theorem Options.wellFormed_ofSources {sources : List Options}
    (wellFormed : ∀ source ∈ sources, source.WellFormed) : (ofSources sources).WellFormed := by
  induction sources with
  | nil => exact wellFormed_empty
  | cons source rest ih =>
      obtain ⟨first, later⟩ := List.forall_mem_cons.mp wellFormed
      rw [ofSources_cons]
      exact first.absorb (ih later)

theorem Draft.WellFormed.resolve {draft : Draft} (wellFormed : draft.WellFormed) (query : Query)
    (facts : LocalFacts) : (draft.config.resolve query facts).options.WellFormed := by
  rw [Config.resolve_options, Config.resolve_matched]
  refine Options.wellFormed_ofSources (List.forall_mem_cons.mpr ⟨wellFormed.globalOptions, ?_⟩)
  refine List.forall_mem_map.mpr fun block member => ?_
  exact wellFormed.options block (List.mem_of_mem_filter member)

/-- How a value is written in a table. -/
inductive Datum.Shows : Datum → Text → Prop where
  | text : Shows (.text value) value
  | number : Shows (.number value) (Nat.toDigits 10 value)
  | list : Shows (.list values) (", ".toList.intercalate values)

theorem Datum.shows_iff {datum : Datum} {shown : Text} :
    datum.Shows shown ↔ datum.line = shown := by
  constructor
  · intro shows
    cases shows with
    | text | list => rfl
    | number => simp [line]
  · rintro rfl
    cases datum with
    | text value => exact .text
    | number value => simpa [line] using Shows.number
    | list values => exact .list

/-- Whether a table has a row for every entry of the options as data, except for an empty list of
identity files, and no others, in ascending order of the keys. -/
def Options.ListedBy (options : Options) (table : Table) : Prop :=
  ∃ rows : List (Text × Text), table.rows = (rows.map fun row => [row.1, row.2]) ∧
    (rows.map Prod.fst).Pairwise (· < ·) ∧
    ∀ key shown, (key, shown) ∈ rows ↔
      ∃ datum, options.data.get? key = some datum ∧ datum.Shows shown ∧
        ¬ (key = OptionKey.identityFiles.text ∧ options.identityFiles = [])

theorem Options.listedBy_table (options : Options) : options.ListedBy options.table := by
  refine ⟨options.rows, rfl, ?_, fun key shown => ?_⟩
  · have kept : (options.rows.map Prod.fst).Sublist (options.data.map Prod.fst) := by
      simpa [rows, Function.comp_def] using List.filter_sublist.map Prod.fst
    exact options.ascending_data.sublist kept
  · simp only [rows, List.mem_map, List.mem_filter, Prod.exists, Prod.mk.injEq]
    constructor
    · rintro ⟨_, datum, ⟨entered, filled⟩, rfl, rfl⟩
      have found := (Record.mem_iff_get? options.nodup_data).mp entered
      refine ⟨datum, found, Datum.shows_iff.mpr rfl, ?_⟩
      rw [← get?_data_eq_nil_iff, found]
      simpa using filled
    · rintro ⟨datum, found, shows, filled⟩
      rw [← get?_data_eq_nil_iff, found] at filled
      have entered := (Record.mem_iff_get? options.nodup_data).mpr found
      exact ⟨key, datum, ⟨entered, by simpa using filled⟩, rfl, Datum.shows_iff.mp shows⟩

/-- Options that are resolved from what a session left are told by their data, but for a variable
and a path that is written like it.  The table lists the data. -/
theorem Draft.Reachable.resolve_shown {draft other : Draft} (reached : draft.Reachable)
    (otherReached : other.Reachable) (query again : Query) (facts elsewhere : LocalFacts) :
    let left := draft.config.resolve query facts
    let right := other.config.resolve again elsewhere
    (left.options.data = right.options.data ↔ left.options.ShownAlike right.options) ∧
    (left.options.data.get? OptionKey.identityAgent.text = some (.text "none".toList) ↔
      left.options.identityAgent = some .disabled) ∧
    left.options.ListedBy left.table := by
  intro left right
  have first := reached.wellFormed.resolve query facts
  have second := otherReached.wellFormed.resolve again elsewhere
  exact ⟨first.data_eq_iff second, first.shown_none_iff, left.options.listedBy_table⟩

/-- The variable and the path that is written like it.  The first session failed at the port. -/
theorem Draft.Reachable.resolve_shown_variable :
    let session := Session.fresh ⟨fun _ => .error .notFound, {}⟩ ⟨['s'], []⟩ 0 ['s']
    let steps : List Session.Step := [.parse "Host a\nIdentityAgent SSH_AUTH_SOCK\nPort 0".toList]
    let others : List Session.Step :=
      [.dispatch .host [['*']] 1, .dispatch .identityAgent ["$SSH_AUTH_SOCK".toList] 2]
    let left := (session.run steps).draft.config.resolve { host := ['A'] } {}
    let right := (session.run others).draft.config.resolve { host := ['b'] } {}
    (session.run steps).draft.Reachable ∧ (session.run others).draft.Reachable ∧
      left.options.data = right.options.data ∧ left.options ≠ right.options ∧
      (left.options.data = right.options.data ↔ left.options.ShownAlike right.options) ∧
      (left.options.data.get? OptionKey.identityAgent.text = some (.text "none".toList) ↔
        left.options.identityAgent = some .disabled) ∧
      left.options.ListedBy left.table := by
  intro session steps others left right
  have reached : (session.run steps).draft.Reachable := ⟨_, _, _, _, steps, rfl⟩
  have otherReached : (session.run others).draft.Reachable := ⟨_, _, _, _, others, rfl⟩
  have same : left.options.data = right.options.data := rfl
  have different : left.options ≠ right.options := by
    intro equal
    cases congrArg Options.identityAgent equal
  exact ⟨reached, otherReached, same, different,
    reached.resolve_shown otherReached { host := ['A'] } { host := ['b'] } {} {}⟩

end SshConfig
