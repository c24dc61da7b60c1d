import SshConfig.Text.Basic

namespace SshConfig

/-! Queries for the options of a connection, and the tokens in a host name.

In the host name of a query a percent sign and the character after it are a token, which
stands for a fact about the query or the local machine.
-/

/-- The connection that options are wanted for. -/
structure Query where
  /-- The host name, as the user gave it. -/
  host : Text
  /-- The name of the remote user, if the user gave one. -/
  user : Option Text := none
deriving DecidableEq, Repr

/-- Facts about the local machine and the account at work. -/
structure LocalFacts where
  username : Text := []
  uid : Nat := 0
  homeDirectory : Text := []
  hostname : Text := []
deriving DecidableEq, Repr

/-- The local host name up to its first dot. -/
def LocalFacts.shortHostname (facts : LocalFacts) : Text :=
  facts.hostname.takeWhile (· != '.')

/-- What tokens stand for. -/
abbrev TokenTable := List (Char × Text)

namespace TokenTable

/-- The tokens of a query. -/
def ofQuery (query : Query) (facts : LocalFacts) : TokenTable :=
  [('h', query.host), ('n', query.host), ('d', facts.homeDirectory),
    ('u', facts.username), ('i', (toString facts.uid).toList),
    ('L', facts.shortHostname), ('l', facts.hostname)] ++
    query.user.toList.map fun user => ('r', user)

/-- What stands for a percent sign and the character after it. -/
def value (table : TokenTable) (key : Char) : Text :=
  (table.lookup key).getD ['%', key]

/-- Replaces the tokens of a text, read from the left in pairs.  Their values are not
read again, a pair that is no token stays, and so does a percent sign at the end. -/
def expand (table : TokenTable) : Text → Text
  | [] => []
  | ['%'] => ['%']
  | '%' :: key :: rest => table.value key ++ expand table rest
  | c :: rest => c :: expand table rest

end TokenTable

/-- The host name of a query with its tokens replaced. -/
def Query.expandedHost (query : Query) (facts : LocalFacts) : Text :=
  (TokenTable.ofQuery query facts).expand query.host

end SshConfig
