import SshConfig.Proofs.Resolution

namespace SshConfig

/-! The algebra of absorbing.

Absorbing is associative and the empty options are its unit, so sources that follow one another can
be put together for themselves first.  A text option has three kinds of value, not two, since a text
that is set but empty gives way to a later one and yet keeps the option set; the laws hold all the
same.  Options that are part of others already have nothing left to add to them but their identity
files, which are listed once more.
-/

theorem fillText_again (held offered : Option Text) :
    fillText (fillText held offered) held = fillText held offered := by
  rcases held with _ | _ | _ <;> rcases offered with _ | _ | _ <;> rfl

namespace Options

/-- Whether options were put together by absorbing, with `part` among what they come from. -/
inductive PartOf (part : Options) : Options → Prop where
  | alone : PartOf part part
  | earlier (held : PartOf part options) (later : Options) : PartOf part (options.absorb later)
  | later (options : Options) (held : PartOf part later) : PartOf part (options.absorb later)

variable {part options : Options}

/-- However options were put together, there is something before the part and something behind. -/
theorem PartOf.exists_around (held : part.PartOf options) :
    ∃ before behind : Options, options = before.absorb (part.absorb behind) := by
  induction held with
  | alone => exact ⟨{}, {}, by simp⟩
  | earlier _ later ih =>
      obtain ⟨before, behind, rfl⟩ := ih
      exact ⟨before, behind.absorb later, by simp only [absorb_assoc]⟩
  | later options _ ih =>
      obtain ⟨before, behind, rfl⟩ := ih
      exact ⟨options.absorb before, behind, (absorb_assoc options before _).symm⟩

theorem absorb_again (options later : Options) :
    (options.absorb later).absorb options =
      { options.absorb later with
        identityFiles := (options.absorb later).identityFiles ++ options.identityFiles } := by
  have first {α : Type} (held offered : Option α) :
      (held.or offered).or held = held.or offered := by
    cases held <;> simp
  simp [absorb, fillText_again, first]

theorem PartOf.absorb_eq (held : part.PartOf options) :
    options.absorb part =
      { options with identityFiles := options.identityFiles ++ part.identityFiles } := by
  obtain ⟨before, behind, rfl⟩ := held.exists_around
  rw [absorb_assoc, absorb_again]
  simp [absorb]

theorem PartOf.foldl (held : part.PartOf options) (sources : List Options) :
    part.PartOf (sources.foldl absorb options) := by
  induction sources generalizing options with
  | nil => exact held
  | cons source rest ih => exact ih (held.earlier source)

theorem partOf_foldl (options : Options) {sources : List Options} (member : part ∈ sources) :
    part.PartOf (sources.foldl absorb options) := by
  obtain ⟨before, behind, rfl⟩ := List.append_of_mem member
  rw [List.foldl_append, List.foldl_cons]
  exact (PartOf.alone.later _).foldl behind

end Options

variable (config : Config) (more : List Block) (query : Query) (facts : LocalFacts)

theorem Config.resolve_options_eq_foldl :
    (config.resolve query facts).options =
      ((config.resolve query facts).matched.map Block.options).foldl Options.absorb
        config.options := by
  rw [resolve_options, Options.foldl_absorb]

theorem Config.resolve_options_append :
    ({ config with blocks := config.blocks ++ more }.resolve query facts).options =
      (config.resolve query facts).options.absorb
        (((more.filter fun block => block.header.fits query facts).map Block.options).foldl
          Options.absorb {}) := by
  simp only [resolve_options, resolve_matched, List.filter_append, List.map_append,
    Options.foldl_absorb, Options.ofSources_cons, Options.ofSources_append, Options.absorb_assoc,
    Options.empty_absorb]

/-- Absorbing is associative with the empty options as its unit, and absorbing a part again only
adds its identity files.  A resolution has the options of global scope and of every block that
applies as parts, and blocks that follow others can be put together for themselves. -/
theorem Options.absorb_laws :
    (∀ first second third : Options,
      (first.absorb second).absorb third = first.absorb (second.absorb third)) ∧
    (∀ options : Options, options.absorb {} = options ∧ absorb {} options = options) ∧
    (∀ part options : Options, part.PartOf options → options.absorb part =
      { options with identityFiles := options.identityFiles ++ part.identityFiles }) ∧
    ∀ (config : Config) (more : List Block) (query : Query) (facts : LocalFacts),
      let resolution := config.resolve query facts
      (∀ part ∈ config.options :: resolution.matched.map Block.options,
        part.PartOf resolution.options) ∧
      ({ config with blocks := config.blocks ++ more }.resolve query facts).options =
        resolution.options.absorb
          (((more.filter fun block => block.header.fits query facts).map Block.options).foldl
            absorb {}) := by
  refine ⟨absorb_assoc, fun options => ⟨options.absorb_empty, options.empty_absorb⟩,
    fun part options held => held.absorb_eq, ?_⟩
  intro config more query facts resolution
  refine ⟨fun part member => ?_, config.resolve_options_append more query facts⟩
  have folded : resolution.options = _ := config.resolve_options_eq_foldl query facts
  rw [folded]
  rcases List.mem_cons.mp member with rfl | applies
  · exact PartOf.alone.foldl _
  · exact partOf_foldl _ applies

/-- The user of the block that applies is empty and counts as unset, and yet it is kept. -/
theorem Options.absorb_laws_empty :
    let part : Options := { user := some [], port := some 2, identityFiles := [['k']] }
    let config : Config :=
      { options := { hostname := some [], port := some 1 }
        blocks := [⟨.host [⟨['*'], false⟩], ⟨['s'], 2⟩, part⟩] }
    let resolution := config.resolve { host := ['h'] } {}
    let whole := resolution.options.absorb { user := some ['u'], identityFiles := [['l']] }
    part ∈ config.options :: resolution.matched.map Block.options ∧
      part.PartOf resolution.options ∧
      resolution.options =
        { hostname := some [], user := some [], port := some 1, identityFiles := [['k']] } ∧
      resolution.options.absorb part =
        { resolution.options with identityFiles := [['k'], ['k']] } ∧
      part.PartOf whole ∧ whole.user = some ['u'] ∧
      whole.absorb part = { whole with identityFiles := [['k'], ['l'], ['k']] } := by
  intro part config resolution whole
  have resolved : resolution =
      ⟨{ hostname := some [], user := some [], port := some 1, identityFiles := [['k']] },
        config.blocks, []⟩ := by decide +kernel
  have member : part ∈ config.options :: resolution.matched.map Block.options := by
    rw [resolved]
    exact .tail _ (.head _)
  obtain ⟨-, -, again, resolving⟩ := Options.absorb_laws
  have held : part.PartOf resolution.options :=
    (resolving config [] { host := ['h'] } {}).1 part member
  have heldWhole : part.PartOf whole := held.earlier _
  have options := congrArg Resolution.options resolved
  refine ⟨member, held, options, ?_, heldWhole, ?_, ?_⟩
  · rw [again part _ held, options]
    rfl
  · simp only [whole, options]
    rfl
  · rw [again part _ heldWhole]
    simp only [whole, options]
    rfl

end SshConfig
