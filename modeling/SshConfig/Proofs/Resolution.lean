import SshConfig.Proofs.Glob
import SshConfig.Proofs.Precedence
import SshConfig.Resolution

namespace SshConfig

/-! What a resolution consists of.

The resolver goes through the blocks once, stops early in the patterns of a block and
completes the options as it goes.  The same result is described here without an order of
steps: which blocks apply is a statement about the patterns or conditions of each block,
and every option is read off the sources all at once.
-/

/-- Whether a host name is what a pattern stands for when letter case is set aside. -/
def HostPattern.Covers (pattern : HostPattern) (host : Text) : Prop :=
  Glob (Text.lowercase pattern.pattern) (Text.lowercase host)

theorem HostPattern.covers_iff (pattern : HostPattern) (host : Text) :
    pattern.covers host = true ↔ pattern.Covers host :=
  fitsGlob_iff _ _

/-- Going on through the patterns of a `Host` line finds a pattern that covers the host,
unless there was one before, and no negated one that does. -/
theorem fitsPatternsFrom_iff (host : Text) (fits : Bool) (patterns : List HostPattern) :
    fitsPatternsFrom host fits patterns = true ↔
      (fits = true ∨ ∃ pattern ∈ patterns, pattern.negated = false ∧ pattern.Covers host) ∧
        ¬ ∃ pattern ∈ patterns, pattern.negated = true ∧ pattern.Covers host := by
  induction patterns generalizing fits with
  | nil => simp [fitsPatternsFrom]
  | cons pattern rest ih =>
      have covered := pattern.covers_iff host
      cases covers : pattern.covers host with
      | false =>
          have uncovered : ¬ pattern.Covers host := by simp [← covered, covers]
          simp [fitsPatternsFrom, covers, ih, uncovered]
      | true =>
          have covering : pattern.Covers host := covered.mp covers
          cases negated : pattern.negated with
          | true => simp [fitsPatternsFrom, covers, negated, covering]
          | false => simp [fitsPatternsFrom, covers, negated, ih, covering]

namespace Condition

/-- Whether what a condition tests is the case.  Names are equal when letter case is set
aside; the host name is the one that was given, and a query without a user meets no
condition on the user. -/
def Met (query : Query) (facts : LocalFacts) (condition : Condition) : Prop :=
  let value := Text.lowercase (condition.value.getD [])
  match condition.kind with
  | .all => True
  | .canonical | .final | .exec => False
  | .host | .originalHost => Text.lowercase query.host = value
  | .localUser => Text.lowercase facts.username = value
  | .user => ∃ user, query.user = some user ∧ Text.lowercase user = value

theorem isMet_iff (query : Query) (facts : LocalFacts) (condition : Condition) :
    condition.isMet query facts = true ↔ condition.Met query facts := by
  unfold isMet Met
  cases condition.kind with
  | user => simp [Text.sameName, Option.any_eq_true_iff_get, Option.eq_some_iff_get_eq]
  | all | canonical | final | exec | host | originalHost | localUser => simp [Text.sameName]

theorem holds_iff (query : Query) (facts : LocalFacts) (condition : Condition) :
    condition.holds query facts = true ↔
      (condition.Met query facts ↔ condition.negated = false) := by
  rw [holds, bne_iff_ne, ← isMet_iff]
  cases condition.isMet query facts <;> cases condition.negated <;> decide

end Condition

/-- Whether a block with this header applies to a connection: the tokens of the host name
are replaced before it is compared with patterns, but not before it is compared with the
value of a condition. -/
def Header.Applies (query : Query) (facts : LocalFacts) : Header → Prop
  | .host patterns =>
      (∃ pattern ∈ patterns, pattern.negated = false ∧
        pattern.Covers (query.expandedHost facts)) ∧
      ¬ ∃ pattern ∈ patterns, pattern.negated = true ∧
        pattern.Covers (query.expandedHost facts)
  | .matching conditions =>
      ∀ condition ∈ conditions, condition.Met query facts ↔ condition.negated = false

theorem Header.fits_iff (query : Query) (facts : LocalFacts) (header : Header) :
    header.fits query facts = true ↔ header.Applies query facts := by
  cases header with
  | host patterns => simp [fits, Applies, fitsPatterns, fitsPatternsFrom_iff]
  | matching conditions => simp [fits, Applies, fitsConditions, Condition.holds_iff]

instance (query : Query) (facts : LocalFacts) (header : Header) :
    Decidable (header.Applies query facts) :=
  decidable_of_iff _ (header.fits_iff query facts)

theorem foldl_consider (query : Query) (facts : LocalFacts) (blocks : List Block)
    (resolution : Resolution) :
    blocks.foldl (Resolution.consider query facts) resolution =
      let matched := blocks.filter fun block => block.header.fits query facts
      { options := (matched.map Block.options).foldl Options.absorb resolution.options
        matched := resolution.matched ++ matched
        source := resolution.source } := by
  induction blocks generalizing resolution with
  | nil => simp
  | cons block rest ih =>
      rw [List.foldl_cons, ih]
      cases fits : block.header.fits query facts <;>
        simp [Resolution.consider, fits]

theorem Config.resolve_matched (config : Config) (query : Query) (facts : LocalFacts) :
    (config.resolve query facts).matched =
      config.blocks.filter fun block => block.header.fits query facts := by
  simp [resolve, foldl_consider]

theorem Config.resolve_options (config : Config) (query : Query) (facts : LocalFacts) :
    (config.resolve query facts).options =
      Options.ofSources (config.options ::
        (config.resolve query facts).matched.map Block.options) := by
  rw [resolve_matched, ← Options.foldl_absorb]
  simp [resolve, foldl_consider]

/-- A resolution has the blocks that apply, in the order of the configuration, and of
every option the first value that global scope and those blocks give. -/
theorem Config.resolve_eq (config : Config) (query : Query) (facts : LocalFacts) :
    config.resolve query facts =
      let matched := config.blocks.filter fun block => block.header.Applies query facts
      { options := Options.ofSources (config.options :: matched.map Block.options)
        matched
        source := config.source } := by
  have applying : config.blocks.filter (fun block => block.header.Applies query facts) =
      config.blocks.filter fun block => block.header.fits query facts := by
    simp [← Header.fits_iff]
  simp only [applying, ← Options.foldl_absorb, resolve, foldl_consider, List.nil_append]

-- The host name is `web5` for patterns and as it was given for conditions.
example :
    let config : Config :=
      { options := { user := some ['u'] }
        blocks :=
          [⟨.host [⟨"*".toList, false⟩, ⟨"WEB?".toList, true⟩], ⟨['s'], 2⟩, { port := some 1 }⟩,
            ⟨.host [⟨"wEb5".toList, false⟩, ⟨"*6".toList, true⟩], ⟨['s'], 4⟩,
              { port := some 2, identityFiles := [['k']] }⟩,
            ⟨.matching [⟨.host, false, some "WEB%i".toList⟩], ⟨['s'], 7⟩,
              { user := some ['v'], port := some 3, identityFiles := [['l']] }⟩] }
    config.resolve { host := "Web%i".toList } { uid := 5 } =
      { options := { user := some ['u'], port := some 2, identityFiles := [['k'], ['l']] }
        matched := config.blocks.tail
        source := [] } := by decide +kernel

end SshConfig
