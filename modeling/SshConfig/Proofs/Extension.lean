import SshConfig.Proofs.Lines
import SshConfig.Proofs.Resolution
import SshConfig.Proofs.Sections

namespace SshConfig

/-! What more text does to a configuration and to what is resolved against it.

More statements complete the section that was the last one and open new ones; no earlier
section changes.  For a resolution it matters that nothing else can grow: identity files
that were added in the middle would not stand at the end of the list.
-/

/-- Whether a text option is kept: a text that is not empty stays as it is, and an option
that is set stays set. -/
def TextKept (held later : Option Text) : Prop :=
  (∀ text, held = some text → text ≠ [] → later = some text) ∧
    (held.isSome = true → later.isSome = true)

theorem TextKept.trans {held middle later : Option Text} (first : TextKept held middle)
    (second : TextKept middle later) : TextKept held later :=
  ⟨fun text set filled => second.1 text (first.1 text set filled) filled,
    fun set => second.2 (first.2 set)⟩

theorem textKept_fillText (held offered : Option Text) :
    TextKept held (fillText held offered) := by
  rcases held with _ | _ | _ <;> cases offered <;> simp [TextKept, fillText]

theorem TextKept.fillText_left {offered later : Option Text} (held : Option Text)
    (kept : TextKept offered later) : TextKept (fillText held offered) (fillText held later) := by
  rcases held with _ | _ | _
  · simpa using kept
  · cases offered with
    | none => exact textKept_fillText (some []) later
    | some text =>
        obtain ⟨next, rfl⟩ := Option.isSome_iff_exists.mp (kept.2 rfl)
        exact kept
  · simp [TextKept, fillText]

/-- Whether later options keep what was set and have more files, if any, at the end. -/
structure Options.ExtendedBy (options later : Options) : Prop where
  identityAgent : ∀ agent, options.identityAgent = some agent →
    later.identityAgent = some agent
  identityFiles : options.identityFiles <+: later.identityFiles
  hostname : TextKept options.hostname later.hostname
  user : TextKept options.user later.user
  port : ∀ number, options.port = some number → later.port = some number

namespace Options

variable {options middle later : Options}

theorem ExtendedBy.trans (first : options.ExtendedBy middle)
    (second : middle.ExtendedBy later) : options.ExtendedBy later where
  identityAgent agent set := second.identityAgent agent (first.identityAgent agent set)
  identityFiles := first.identityFiles.trans second.identityFiles
  hostname := first.hostname.trans second.hostname
  user := first.user.trans second.user
  port number set := second.port number (first.port number set)

theorem extendedBy_absorb (options later : Options) :
    options.ExtendedBy (options.absorb later) where
  identityAgent agent set := by simp [absorb, set]
  identityFiles := List.prefix_append _ _
  hostname := textKept_fillText _ _
  user := textKept_fillText _ _
  port number set := by simp [absorb, set]

theorem empty_extendedBy (later : Options) : ({} : Options).ExtendedBy later := by
  simpa using extendedBy_absorb {} later

theorem ExtendedBy.absorb_left (options : Options) (grown : middle.ExtendedBy later) :
    (options.absorb middle).ExtendedBy (options.absorb later) where
  identityAgent agent set := by
    cases held : options.identityAgent with
    | some first => simpa [absorb, held] using set
    | none =>
        simp only [absorb, held, Option.none_or] at set ⊢
        exact grown.identityAgent agent set
  identityFiles := (List.prefix_append_right_inj _).mpr grown.identityFiles
  hostname := grown.hostname.fillText_left _
  user := grown.user.fillText_left _
  port number set := by
    cases held : options.port with
    | some first => simpa [absorb, held] using set
    | none =>
        simp only [absorb, held, Option.none_or] at set ⊢
        exact grown.port number set

end Options

/-- Whether blocks grew at their end only: the last may have been completed, and others
may follow. -/
inductive BlocksGrow : List Block → List Block → Prop where
  | more (later : List Block) : BlocksGrow [] later
  | last {block grown : Block} (later : List Block) (header : grown.header = block.header)
      (origin : grown.origin = block.origin)
      (options : block.options.ExtendedBy grown.options) :
      BlocksGrow [block] (grown :: later)
  | kept {blocks later : List Block} (block : Block) (rest : BlocksGrow blocks later) :
      BlocksGrow (block :: blocks) (block :: later)

namespace BlocksGrow

variable {blocks later : List Block}

theorem filter (choose : Header → Bool) (grown : BlocksGrow blocks later) :
    BlocksGrow (blocks.filter fun block => choose block.header)
      (later.filter fun block => choose block.header) := by
  induction grown with
  | more later => exact .more _
  | @last block grown later header origin options =>
      cases chosen : choose block.header with
      | false => simpa [chosen, header] using BlocksGrow.more _
      | true => simpa [chosen, header] using BlocksGrow.last _ header origin options
  | @kept blocks later block rest ih =>
      cases chosen : choose block.header with
      | false => simpa [chosen] using ih
      | true => simpa [chosen] using ih.kept block

theorem headers (grown : BlocksGrow blocks later) :
    blocks.map (fun block => (block.header, block.origin)) <+:
      later.map fun block => (block.header, block.origin) := by
  induction grown with
  | more later => exact List.nil_prefix
  | last later header origin options => simp [header, origin]
  | kept block rest ih => simpa using ih

theorem positions (choose : Header → Bool) (first : Nat) (grown : BlocksGrow blocks later) :
    ((blocks.zipIdx first).filter fun entry => choose entry.1.header).map Prod.snd <+:
      ((later.zipIdx first).filter fun entry => choose entry.1.header).map Prod.snd := by
  induction grown generalizing first with
  | more later => exact List.nil_prefix
  | @last block grown later header origin options =>
      cases chosen : choose block.header <;> simp [chosen, header]
  | @kept blocks later block rest ih =>
      have next := ih (first + 1)
      cases chosen : choose block.header <;> simpa [chosen] using next

theorem options (grown : BlocksGrow blocks later) :
    (Options.ofSources (blocks.map Block.options)).ExtendedBy
      (Options.ofSources (later.map Block.options)) := by
  induction grown with
  | more later => exact Options.empty_extendedBy _
  | @last block grown later header origin options =>
      simp only [List.map_cons, List.map_nil, Options.ofSources_cons, Options.ofSources_nil,
        Options.absorb_empty]
      exact options.trans (Options.extendedBy_absorb _ _)
  | @kept blocks later block rest ih =>
      simp only [List.map_cons, Options.ofSources_cons]
      exact ih.absorb_left _

end BlocksGrow

theorem leading_prefix (statements more : List Statement) :
    leading statements <+: leading (statements ++ more) := by
  induction statements with
  | nil => exact List.nil_prefix
  | cons statement rest ih =>
      cases statement with
      | header header origin => exact List.nil_prefix
      | setting setting => simpa [leading] using ih

theorem leading_append_of_sections {statements : List Statement} (more : List Statement)
    (opened : sections statements ≠ []) : leading (statements ++ more) = leading statements := by
  induction statements with
  | nil => exact absurd rfl opened
  | cons statement rest ih =>
      cases statement with
      | header header origin => rfl
      | setting setting =>
          simp only [List.cons_append, leading, List.cons.injEq, true_and]
          exact ih opened

theorem ofSources_leading_extendedBy (statements more : List Statement) :
    (Options.ofSources ((leading statements).map Setting.options)).ExtendedBy
      (Options.ofSources ((leading (statements ++ more)).map Setting.options)) := by
  obtain ⟨settings, same⟩ := leading_prefix statements more
  rw [← same, List.map_append, Options.ofSources_append]
  exact Options.extendedBy_absorb _ _

theorem blocksGrow_sections (statements more : List Statement) :
    BlocksGrow ((sections statements).map Section.block)
      ((sections (statements ++ more)).map Section.block) := by
  induction statements with
  | nil => exact .more _
  | cons statement rest ih =>
      cases statement with
      | setting setting => exact ih
      | header header origin =>
          simp only [List.cons_append, sections, List.map_cons]
          by_cases opened : sections rest = []
          · rw [opened]
            exact .last _ rfl rfl (ofSources_leading_extendedBy rest more)
          · rw [leading_append_of_sections more opened]
            exact ih.kept _

/-- The places, among all blocks of the configuration, of those that apply. -/
def Config.matchedPositions (config : Config) (query : Query) (facts : LocalFacts) : List Nat :=
  (config.blocks.zipIdx.filter fun entry => entry.1.header.fits query facts).map Prod.snd

/-- The places are right: what stands there is what applies. -/
theorem Config.resolve_matched_eq_filterMap (config : Config) (query : Query)
    (facts : LocalFacts) :
    (config.resolve query facts).matched =
      (config.matchedPositions query facts).filterMap fun position =>
        config.blocks[position]? := by
  have placed : (config.blocks.zipIdx.filter fun entry =>
        entry.1.header.fits query facts).filterMap (fun entry => config.blocks[entry.2]?) =
      (config.blocks.zipIdx.filter fun entry => entry.1.header.fits query facts).map
        Prod.fst := by
    rw [← List.filterMap_eq_map]
    refine List.filterMap_congr fun entry member => ?_
    exact List.mem_zipIdx_iff_getElem?.mp (List.mem_filter.mp member).1
  rw [resolve_matched, matchedPositions, List.filterMap_map]
  refine Eq.trans ?_ placed.symm
  conv => lhs; rw [← List.zipIdx_map_fst 0 config.blocks, List.filter_map]
  rfl

theorem resolve_options_extendedBy (source : Text) (statements more : List Statement)
    (query : Query) (facts : LocalFacts) :
    ((Config.ofStatements source statements).resolve query facts).options.ExtendedBy
      ((Config.ofStatements source (statements ++ more)).resolve query facts).options := by
  have grown := (blocksGrow_sections statements more).filter (Header.fits query facts)
  rw [Config.resolve_options, Config.resolve_options, Config.resolve_matched,
    Config.resolve_matched, Options.ofSources_cons, Options.ofSources_cons]
  -- what is added goes to global scope as long as there is no section, and never later
  by_cases opened : sections statements = []
  · have none : (Config.ofStatements source statements).blocks = [] := by
      simp [Config.ofStatements, opened]
    rw [none, List.filter_nil, List.map_nil, Options.ofSources_nil, Options.absorb_empty]
    exact (ofSources_leading_extendedBy statements more).trans (Options.extendedBy_absorb _ _)
  · have same : (Config.ofStatements source (statements ++ more)).options =
        (Config.ofStatements source statements).options := by
      simp [Config.ofStatements, leading_append_of_sections more opened]
    rw [same]
    exact grown.options.absorb_left _

/-- If a text can be parsed that goes on after a line feed, the text up to there can be
parsed, and it has the first of the statements. -/
theorem parseAt_append {surroundings : Surroundings} {place : Place} {first second : Text}
    {longer : Config}
    (parsed : parseAt surroundings place (first ++ '\n' :: second) = .ok longer) :
    ∃ statements more,
      parseAt surroundings place first = .ok (.ofStatements place.source statements) ∧
      longer = .ofStatements place.source (statements ++ more) := by
  let session : Session := ⟨surroundings, place, 0, { config := { source := place.source } }⟩
  obtain ⟨draft, ran, rfl⟩ := parseAt_eq_ok.mp parsed
  rw [session.interpretAt_eq_interpretLines, interpretLines_lines_append] at ran
  obtain ⟨middle, firstRan, secondRan⟩ := Outcome.andThen_eq_done.mp ran
  obtain ⟨more, -, rfl⟩ := interpretLines_leads
    (session.nested_property (interpret_runsStatements surroundings)) secondRan
  rw [← session.interpretAt_eq_interpretLines] at firstRan
  obtain ⟨statements, -, rfl⟩ := interpret_runsStatements _ _ _ _ _ _ firstRan
  refine ⟨statements, more, parseAt_eq_ok.mpr ⟨_, firstRan, Draft.run_config _ _⟩, ?_⟩
  rw [← Draft.run_append]
  exact Draft.run_config _ _

/-- Text that is added to a configuration changes nothing that was resolved against it,
fills in what was missing, and adds files and blocks at the end only. -/
theorem resolve_extendedBy_of_parseText_append {surroundings : Surroundings}
    {directory : Path} {first second : Text} {longer : Config}
    (parsed : parseText surroundings directory (first ++ '\n' :: second) = .ok longer) :
    ∃ shorter, parseText surroundings directory first = .ok shorter ∧
      ∀ query facts,
        (shorter.resolve query facts).options.ExtendedBy
          (longer.resolve query facts).options ∧
        shorter.matchedPositions query facts <+: longer.matchedPositions query facts ∧
        (shorter.resolve query facts).matched.map (fun block => (block.header, block.origin)) <+:
          (longer.resolve query facts).matched.map fun block => (block.header, block.origin) := by
  obtain ⟨statements, more, parsedFirst, rfl⟩ := parseAt_append parsed
  refine ⟨_, parsedFirst, fun query facts =>
    ⟨resolve_options_extendedBy _ statements more query facts, ?_, ?_⟩⟩
  · exact (blocksGrow_sections statements more).positions (Header.fits query facts) 0
  · rw [Config.resolve_matched, Config.resolve_matched]
    exact ((blocksGrow_sections statements more).filter (Header.fits query facts)).headers

/-- An added line completes the last block, and another block is added that applies. -/
theorem resolve_extendedBy_of_parseText_append_port :
    let surroundings : Surroundings := ⟨fun _ => .error .notFound, {}⟩
    let first := "Host h\nUser a".toList
    let second := "Port 1\nUser b\nHost *\nPort 2".toList
    let longer : Config :=
      { blocks :=
          [⟨.host [⟨['h'], false⟩], ⟨"<string>".toList, 1⟩,
              { user := some ['a'], port := some 1 }⟩,
            ⟨.host [⟨['*'], false⟩], ⟨"<string>".toList, 5⟩, { port := some 2 }⟩]
        source := "<string>".toList }
    parseText surroundings "/c".toList (first ++ '\n' :: second) = .ok longer ∧
      ∃ shorter, parseText surroundings "/c".toList first = .ok shorter ∧
        ∀ query facts,
          (shorter.resolve query facts).options.ExtendedBy
            (longer.resolve query facts).options ∧
          shorter.matchedPositions query facts <+: longer.matchedPositions query facts ∧
          (shorter.resolve query facts).matched.map
              (fun block => (block.header, block.origin)) <+:
            (longer.resolve query facts).matched.map
              fun block => (block.header, block.origin) := by
  intro surroundings first second longer
  have parsed : parseText surroundings "/c".toList (first ++ '\n' :: second) = .ok longer := rfl
  exact ⟨parsed, resolve_extendedBy_of_parseText_append parsed⟩

end SshConfig
