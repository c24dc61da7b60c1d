import SshConfig.Proofs.Expansion
import SshConfig.Proofs.LetterCase
import SshConfig.Proofs.Resolution

namespace SshConfig

/-! What a resolution takes no notice of.

Patterns and conditions are compared with lowercase forms: of the host name with its tokens
replaced and as it was given, of the remote user and of the local account.  Of all else that is
known about the local machine a resolution can learn by tokens only, and a host name without a
percent sign has none.
-/

theorem Query.expandedHost_of_plain {query : Query} (facts : LocalFacts)
    (plain : '%' ∉ query.host) : query.expandedHost facts = query.host :=
  TokenTable.expand_of_plain _ plain

variable {query other : Query} {facts elsewhere : LocalFacts}

/-- Whether two connections have the same of all that patterns and conditions are compared with. -/
structure SeenAlike (query : Query) (facts : LocalFacts) (other : Query) (elsewhere : LocalFacts) :
    Prop where
  host : Text.lowercase query.host = Text.lowercase other.host
  expanded :
    Text.lowercase (query.expandedHost facts) = Text.lowercase (other.expandedHost elsewhere)
  user : query.user.map Text.lowercase = other.user.map Text.lowercase
  account : Text.lowercase facts.username = Text.lowercase elsewhere.username

namespace SeenAlike

theorem met_iff (alike : SeenAlike query facts other elsewhere) (condition : Condition) :
    condition.Met query facts ↔ condition.Met other elsewhere := by
  unfold Condition.Met
  cases condition.kind with
  | all | canonical | final | exec => rfl
  | host | originalHost => simp only [alike.host]
  | localUser => simp only [alike.account]
  | user => simp only [← Option.map_eq_some_iff, alike.user]

theorem fits_eq (alike : SeenAlike query facts other elsewhere) (header : Header) :
    header.fits query facts = header.fits other elsewhere := by
  rw [Bool.eq_iff_iff, Header.fits_iff, Header.fits_iff]
  cases header with
  | host patterns => simp only [Header.Applies, HostPattern.Covers, alike.expanded]
  | matching conditions => simp only [Header.Applies, alike.met_iff]

theorem resolve_congr (alike : SeenAlike query facts other elsewhere) (config : Config) :
    config.resolve query facts = config.resolve other elsewhere := by
  have considered : Resolution.consider query facts = Resolution.consider other elsewhere := by
    funext resolution block
    rw [Resolution.consider, Resolution.consider, alike.fits_eq]
  rw [Config.resolve, Config.resolve, considered]

end SeenAlike

/-- Without a percent sign in the host name, a resolution takes no notice of the local machine
beyond the name of the account, nor of the case of ASCII letters in any of the names. -/
theorem Config.resolve_indifferent (config : Config) (plain : '%' ∉ query.host)
    (otherPlain : '%' ∉ other.host)
    (hosts : Text.lowerAscii query.host = Text.lowerAscii other.host)
    (users : query.user.map Text.lowerAscii = other.user.map Text.lowerAscii)
    (accounts : Text.lowerAscii facts.username = Text.lowerAscii elsewhere.username) :
    config.resolve query facts = config.resolve other elsewhere := by
  have host := Text.lowercase_eq_of_lowerAscii_eq hosts
  have forms (user : Option Text) :
      user.map Text.lowercase = (user.map Text.lowerAscii).map Text.lowercase := by
    have same : Text.lowercase ∘ Text.lowerAscii = Text.lowercase :=
      funext Text.lowercase_lowerAscii
    rw [Option.map_map, same]
  have alike : SeenAlike query facts other elsewhere :=
    { host
      expanded := by
        rw [Query.expandedHost_of_plain facts plain,
          Query.expandedHost_of_plain elsewhere otherPlain]
        exact host
      user := by rw [forms, users, ← forms]
      account := Text.lowercase_eq_of_lowerAscii_eq accounts }
  exact alike.resolve_congr config

/-- A sigma before a capital letter, a condition on the account, and an option with a token. -/
theorem Config.resolve_indifferent_sigma :
    let config : Config :=
      { blocks :=
          [⟨.host [⟨"?*ΑΣ".toList, false⟩, ⟨"*b".toList, true⟩], ⟨['s'], 1⟩, { port := some 2 }⟩,
            ⟨.host [⟨"?.ασB".toList, false⟩], ⟨['s'], 2⟩, { user := some ['u'] }⟩,
            ⟨.matching [⟨.localUser, false, some "ME".toList⟩, ⟨.user, true, some ['R']⟩],
              ⟨['s'], 3⟩, { hostname := some "%d".toList }⟩] }
    let query : Query := { host := "a.ΑΣB".toList, user := some ['q'] }
    let other : Query := { host := "A.ΑΣb".toList, user := some ['Q'] }
    let facts : LocalFacts := { username := "Me".toList, uid := 1, hostname := "l.h".toList }
    let elsewhere : LocalFacts := { username := "mE".toList, homeDirectory := "/r".toList }
    '%' ∉ query.host ∧ '%' ∉ other.host ∧
      Text.lowerAscii query.host = Text.lowerAscii other.host ∧
      query.user.map Text.lowerAscii = other.user.map Text.lowerAscii ∧
      Text.lowerAscii facts.username = Text.lowerAscii elsewhere.username ∧
      (config.resolve query facts).matched = config.blocks.drop 1 ∧
      config.resolve query facts = config.resolve other elsewhere := by
  intro config query other facts elsewhere
  have plain : '%' ∉ query.host := by simp [query]
  have otherPlain : '%' ∉ other.host := by simp [other]
  have matched : (config.resolve query facts).matched = config.blocks.drop 1 := by
    decide +kernel
  have hosts : Text.lowerAscii query.host = Text.lowerAscii other.host := rfl
  have users : query.user.map Text.lowerAscii = other.user.map Text.lowerAscii := rfl
  have accounts : Text.lowerAscii facts.username = Text.lowerAscii elsewhere.username := rfl
  exact ⟨plain, otherPlain, hosts, users, accounts, matched,
    config.resolve_indifferent plain otherPlain hosts users accounts⟩

end SshConfig
