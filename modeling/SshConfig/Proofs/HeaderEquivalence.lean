import SshConfig.Proofs.ConditionGrammar
import SshConfig.Proofs.Extension
import SshConfig.Proofs.Wildcards

namespace SshConfig

/-! Headers that apply to the same connections.

Where going through the patterns or conditions of a header ends depends on their order.  What comes
of it depends only on which there are, so a resolution does not tell headers apart that list the
same.  A pattern without wildcards and a condition on the host name compare lowercase forms in the
same way, but not of the same text: the tokens of the host name are replaced for the pattern only.
-/

/-- Whether two headers list the same patterns or the same conditions, in any order and however
often. -/
inductive Header.ListsSame : Header → Header → Prop where
  | host (same : ∀ pattern, pattern ∈ patterns ↔ pattern ∈ others) :
      ListsSame (.host patterns) (.host others)
  | matching (same : ∀ condition, condition ∈ conditions ↔ condition ∈ others) :
      ListsSame (.matching conditions) (.matching others)

theorem Header.ListsSame.fits_eq {header other : Header} (same : header.ListsSame other)
    (query : Query) (facts : LocalFacts) : header.fits query facts = other.fits query facts := by
  rw [Bool.eq_iff_iff, fits_iff, fits_iff]
  cases same with
  | host same | matching same => simp only [Applies, same]

/-- Whether two blocks differ at most in how their headers list the same. -/
structure Block.RearrangedAs (block other : Block) : Prop where
  header : block.header.ListsSame other.header
  origin : block.origin = other.origin
  options : block.options = other.options

/-- Whether two configurations differ at most in how the headers of their blocks list the same. -/
structure Config.RearrangedAs (config other : Config) : Prop where
  options : config.options = other.options
  blocks : List.Forall₂ Block.RearrangedAs config.blocks other.blocks
  source : config.source = other.source

/-- The places of the blocks that apply are told from which blocks do. -/
theorem Config.matchedPositions_eq (config : Config) (query : Query) (facts : LocalFacts) :
    config.matchedPositions query facts =
      ((config.blocks.map fun block => block.header.fits query facts).zipIdx.filter
        Prod.fst).map Prod.snd := by
  rw [List.zipIdx_map, List.filter_map, List.map_map]
  rfl

theorem map_eq_of_forall₂ {α β : Type} {relation : α → α → Prop} {value : α → β}
    (agree : ∀ left right, relation left right → value left = value right) {lefts rights : List α}
    (related : List.Forall₂ relation lefts rights) : lefts.map value = rights.map value := by
  rw [← List.forall₂_eq_eq_eq, List.forall₂_map_left_iff, List.forall₂_map_right_iff]
  exact related.imp agree

namespace Config.RearrangedAs

variable {config other : Config} (rearranged : config.RearrangedAs other) (query : Query)
  (facts : LocalFacts)
include rearranged

theorem matched :
    List.Forall₂ Block.RearrangedAs (config.resolve query facts).matched
      (other.resolve query facts).matched := by
  rw [resolve_matched, resolve_matched]
  refine List.rel_filter (fun left right same => ?_) rearranged.blocks
  simp only [same.header.fits_eq query facts]

/-- The order and the repetition of what a header lists have no effect on what is resolved, nor on
which blocks apply. -/
theorem resolve_alike :
    (config.resolve query facts).options = (other.resolve query facts).options ∧
    config.matchedPositions query facts = other.matchedPositions query facts ∧
    List.Forall₂ Block.RearrangedAs (config.resolve query facts).matched
      (other.resolve query facts).matched := by
  have matched := rearranged.matched query facts
  refine ⟨?_, ?_, matched⟩
  · rw [resolve_options, resolve_options, rearranged.options,
      map_eq_of_forall₂ (fun _ _ same => same.options) matched]
  · rw [matchedPositions_eq, matchedPositions_eq,
      map_eq_of_forall₂ (fun _ _ same => same.header.fits_eq query facts) rearranged.blocks]

end Config.RearrangedAs

/-- The pattern that rules the first block out comes first on one side and last on the other.  The
other two blocks apply. -/
theorem Config.RearrangedAs.resolve_alike_negated :
    let no : HostPattern := ⟨"db*".toList, true⟩
    let web : HostPattern := ⟨"web".toList, false⟩
    let any : HostPattern := ⟨['*'], false⟩
    let me : Condition := ⟨.localUser, false, some "me".toList⟩
    let other : Condition := ⟨.user, true, some ['u']⟩
    let config (first second third : Header) : Config :=
      { blocks :=
          [⟨first, ⟨['s'], 1⟩, { port := some 1 }⟩, ⟨second, ⟨['s'], 2⟩, { port := some 2 }⟩,
            ⟨third, ⟨['s'], 3⟩, { user := some ['v'] }⟩] }
    let left := config (.host [no, any]) (.host [web, any]) (.matching [me, other])
    let right :=
      config (.host [any, any, no]) (.host [any, web, any]) (.matching [other, me, other])
    let query : Query := { host := "DB1".toList }
    let facts : LocalFacts := { username := "ME".toList }
    left.RearrangedAs right ∧ left.matchedPositions query facts = [1, 2] ∧
      (left.resolve query facts).options = (right.resolve query facts).options ∧
      left.matchedPositions query facts = right.matchedPositions query facts ∧
      List.Forall₂ Block.RearrangedAs (left.resolve query facts).matched
        (right.resolve query facts).matched := by
  intro no web any me other config left right query facts
  have rearranged : left.RearrangedAs right :=
    { options := rfl
      blocks :=
        .cons ⟨.host (by simp [or_comm]), rfl, rfl⟩
          (.cons ⟨.host (by simp), rfl, rfl⟩
            (.cons ⟨.matching (by simp), rfl, rfl⟩ .nil))
      source := rfl }
  have positions : left.matchedPositions query facts = [1, 2] := by decide +kernel
  exact ⟨rearranged, positions, rearranged.resolve_alike query facts⟩

theorem glob_plain_iff {pattern text : Text} (noStar : '*' ∉ pattern) (noAny : '?' ∉ pattern) :
    Glob pattern text ↔ text = pattern := by
  constructor
  · intro fits
    have literal : ∀ symbol ∈ pattern, symbol ≠ '?' := fun symbol member any => noAny (any ▸ member)
    have alone : List.Forall₂ (fun symbol c => symbol ≠ '?' ∧ FitsAlone symbol c) pattern text :=
      (List.forall₂_and_left _ _).mpr ⟨literal, fits.forall₂ noStar⟩
    have same : List.Forall₂ (· = ·) pattern text :=
      alone.imp fun _ _ ⟨other, fits⟩ => (fits.resolve_left other).symm
    rw [List.forall₂_eq_eq_eq] at same
    exact same.symm
  · rintro rfl
    exact glob_self text

theorem HostPattern.covers_plain_iff {name : Text} (noStar : '*' ∉ name) (noAny : '?' ∉ name)
    (negated : Bool) (host : Text) :
    (HostPattern.mk name negated).Covers host ↔ Text.lowercase host = Text.lowercase name := by
  have absent {sign : Char} (some : sign ≠ '\x00') (low : sign.toNat < 0x41) (none : sign ∉ name) :
      sign ∉ Text.lowercase name :=
    fun member => none (Text.mem_of_mem_lowercaseAfter some low member)
  exact glob_plain_iff (absent (by decide) (by decide) noStar)
    (absent (by decide) (by decide) noAny)

/-- A name without wildcards and without an exclamation mark before it is read as a pattern and as
the value of a condition on the host name.  The two apply to the same connections among those whose
host name has no token to replace. -/
theorem Header.host_fits_iff_matching_fits {name : Text} (noStar : '*' ∉ name) (noAny : '?' ∉ name)
    (unmarked : name.head? ≠ some '!') {query : Query} {facts : LocalFacts}
    (untouched : query.expandedHost facts = query.host) :
    let pattern : Header := .host [⟨name, false⟩]
    let condition : Header := .matching [⟨.host, false, some name⟩]
    Directive.read .host [name] = .ok (.header pattern) ∧
      Directive.read .matching ["host".toList, name] = .ok (.header condition) ∧
      (pattern.fits query facts = true ↔ condition.fits query facts = true) := by
  intro pattern condition
  have unnegated : readNegation (writeNegation false name) = (false, name) :=
    readNegation_writeNegation fun _ => unmarked
  have read : HostPattern.ofText name = ⟨name, false⟩ :=
    congrArg (fun parts => HostPattern.mk parts.2 parts.1) unnegated
  have spelled : Text.sameLetters ConditionKind.host.name.toList "host".toList = true := rfl
  have written : Condition.Written [⟨.host, false, some name⟩] ["host".toList, name] :=
    .more spelled rfl .nothing
  refine ⟨?_, ?_, ?_⟩
  · simp [Directive.read, read, pattern]
  · rw [Directive.read, Condition.readAll_eq_ok.mpr written]
  · have covers := HostPattern.covers_plain_iff noStar noAny false (query.expandedHost facts)
    rw [untouched] at covers
    rw [fits_iff, fits_iff]
    simp [pattern, condition, Applies, Condition.Met, untouched, covers]

/-- The forms of the two names differ from both, and a pair of percent signs is no token. -/
theorem Header.host_fits_iff_matching_fits_percent :
    let name := "%%İας".toList
    let query : Query := { host := "%%İΑΣ".toList, user := some ['%'] }
    let facts : LocalFacts := { hostname := "l.h".toList }
    let pattern : Header := .host [⟨name, false⟩]
    let condition : Header := .matching [⟨.host, false, some name⟩]
    '*' ∉ name ∧ '?' ∉ name ∧ name.head? ≠ some '!' ∧ query.expandedHost facts = query.host ∧
      condition.fits query facts = true ∧
      Directive.read .host [name] = .ok (.header pattern) ∧
      Directive.read .matching ["host".toList, name] = .ok (.header condition) ∧
      (pattern.fits query facts = true ↔ condition.fits query facts = true) := by
  intro name query facts pattern condition
  have noStar : '*' ∉ name := by simp [name]
  have noAny : '?' ∉ name := by simp [name]
  have unmarked : name.head? ≠ some '!' := by simp [name]
  have untouched : query.expandedHost facts = query.host := rfl
  have fits : condition.fits query facts = true := by decide +kernel
  exact ⟨noStar, noAny, unmarked, untouched, fits,
    Header.host_fits_iff_matching_fits noStar noAny unmarked untouched⟩

-- Where the host name has a token, the pattern is compared with its value and the condition is not.
example :
    let query : Query := { host := "%L-jump".toList }
    let facts : LocalFacts := { hostname := "lapis.example".toList }
    (Header.host [⟨"lapis-jump".toList, false⟩]).fits query facts = true ∧
      (Header.matching [⟨.host, false, some "lapis-jump".toList⟩]).fits query facts = false := by
  decide +kernel

end SshConfig
