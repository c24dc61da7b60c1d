import SshConfig.Negation
import SshConfig.Text.Ascii
import SshConfig.Text.Lowercase

namespace SshConfig

/-! The conditions of a `Match` line. -/

/-- What a condition tests. -/
inductive ConditionKind where
  | all
  | canonical
  | final
  | exec
  | host
  | originalHost
  | user
  | localUser
deriving DecidableEq, Repr

namespace ConditionKind

def every : List ConditionKind :=
  [.all, .canonical, .final, .exec, .host, .originalHost, .user, .localUser]

/-- The name, in small letters. -/
def name : ConditionKind → String
  | .all => "all"
  | .canonical => "canonical"
  | .final => "final"
  | .exec => "exec"
  | .host => "host"
  | .originalHost => "originalhost"
  | .user => "user"
  | .localUser => "localuser"

/-- The kind that a word names, in any case of its letters. -/
def ofName? (word : Text) : Option ConditionKind :=
  every.find? fun kind => Text.sameLetters kind.name.toList word

/-- Whether a condition of this kind is written with a value after its name. -/
def takesValue : ConditionKind → Bool
  | .all | .canonical | .final => false
  | .exec | .host | .originalHost | .user | .localUser => true

theorem mem_every (kind : ConditionKind) : kind ∈ every := by
  cases kind <;> decide

end ConditionKind

/-- One condition of a `Match` line. -/
structure Condition where
  kind : ConditionKind
  negated : Bool
  value : Option Text
deriving DecidableEq, Repr

namespace Condition

/-- The condition as it is written on a `Match` line. -/
def text (condition : Condition) : Text :=
  let name := writeNegation condition.negated condition.kind.name.toList
  match condition.value with
  | none => name
  | some value => name ++ ' ' :: value

/-- Why the arguments of a `Match` line are no conditions. -/
inductive Fault where
  /-- The kind of condition has no such name; the name is given in small letters. -/
  | unknownKind (name : Text)
  /-- The arguments end where the value of the condition should stand. -/
  | missingValue (kind : ConditionKind)
deriving DecidableEq, Repr

/-- Reads the arguments of a `Match` line: names of kinds, each followed by a value if
its kind takes one. -/
def readAll : List Text → Except Fault (List Condition)
  | [] => .ok []
  | argument :: rest =>
      let negated := (readNegation argument).1
      let name := (readNegation argument).2
      match ConditionKind.ofName? name with
      | none => .error (.unknownKind (Text.lowercase name))
      | some kind =>
          if kind.takesValue then
            match rest with
            | [] => .error (.missingValue kind)
            | value :: rest => (readAll rest).map (⟨kind, negated, some value⟩ :: ·)
          else (readAll rest).map (⟨kind, negated, none⟩ :: ·)

end Condition

end SshConfig
