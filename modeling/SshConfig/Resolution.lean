import SshConfig.Config
import SshConfig.Query

namespace SshConfig

/-! Resolution: which options apply to a connection. -/

namespace Condition

/-- Whether what a condition tests is the case, before negation.  The host name is
compared as it was given, tokens included. -/
def isMet (query : Query) (facts : LocalFacts) (condition : Condition) : Bool :=
  let value := condition.value.getD []
  match condition.kind with
  | .all => true
  | .canonical | .final | .exec => false
  | .host | .originalHost => Text.sameName query.host value
  | .localUser => Text.sameName facts.username value
  | .user => query.user.any fun user => Text.sameName user value

/-- Whether a condition holds. -/
def holds (query : Query) (facts : LocalFacts) (condition : Condition) : Bool :=
  condition.isMet query facts != condition.negated

end Condition

/-- Whether the conditions of a `Match` line all hold. -/
def fitsConditions (query : Query) (facts : LocalFacts) (conditions : List Condition) :
    Bool :=
  conditions.all fun condition => condition.holds query facts

/-- Whether a header applies to a connection. -/
def Header.fits (query : Query) (facts : LocalFacts) : Header → Bool
  | .host patterns => fitsPatterns (query.expandedHost facts) patterns
  | .matching conditions => fitsConditions query facts conditions

/-- The options of one connection. -/
structure Resolution where
  options : Options
  /-- The blocks that apply, in the order of the configuration. -/
  matched : List Block
  /-- The source of the configuration. -/
  source : Text
deriving DecidableEq, Repr

/-- Takes a block into account: one that applies adds what is not yet set. -/
def Resolution.consider (query : Query) (facts : LocalFacts) (resolution : Resolution)
    (block : Block) : Resolution :=
  if block.header.fits query facts then
    { resolution with
      options := resolution.options.absorb block.options
      matched := resolution.matched ++ [block] }
  else resolution

/-- Resolves a query: the options of global scope come first, then those of every block
that applies, in order. -/
def Config.resolve (config : Config) (query : Query) (facts : LocalFacts) : Resolution :=
  config.blocks.foldl (Resolution.consider query facts)
    { options := config.options, matched := [], source := config.source }

end SshConfig
