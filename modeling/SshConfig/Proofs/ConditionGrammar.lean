import SshConfig.Proofs.Interruption

namespace SshConfig

/-! The grammar of the arguments of a `Match` line.

Conditions are written one after the other: a name of the kind, with an exclamation mark in front if
the condition is negated, and then a value if the kind takes one.  How far arguments can be read as
conditions is settled by the arguments alone, and what follows there tells why they go no further.
-/

namespace ConditionKind

variable {kind : ConditionKind} {word : Text}

theorem ofName?_eq_some :
    ofName? word = some kind ↔ Text.sameLetters kind.name.toList word = true := by
  constructor
  · exact List.find?_some
  · intro spelled
    have letters : Text.lowerAscii word = Text.lowerAscii kind.name.toList :=
      (beq_iff_eq.mp spelled).symm
    unfold ofName? Text.sameLetters
    rw [letters]
    cases kind <;> rfl

theorem ofName?_eq_none :
    ofName? word = none ↔
      ∀ kind : ConditionKind, Text.sameLetters kind.name.toList word = false := by
  simp [ofName?, mem_every]

theorem unmarked_of_sameLetters (spelled : Text.sameLetters kind.name.toList word = true) :
    word.head? ≠ some '!' := by
  intro marked
  obtain ⟨rest, rfl⟩ := List.head?_eq_some_iff.mp marked
  have letters : Text.lowerAscii kind.name.toList = '!' :: Text.lowerAscii rest :=
    beq_iff_eq.mp spelled
  cases kind <;> cases letters

end ConditionKind

namespace Condition

/-- The arguments that a condition is written as when its kind is spelled as `name`. -/
def arguments (condition : Condition) (name : Text) : List Text :=
  writeNegation condition.negated name :: condition.value.toList

/-- Whether conditions are written as the arguments, each with its kind in any case of the letters
and with a value exactly if its kind takes one. -/
inductive Written : List Condition → List Text → Prop where
  | nothing : Written [] []
  | more (spelled : Text.sameLetters condition.kind.name.toList name = true)
      (valued : condition.value.isSome = condition.kind.takesValue)
      (others : Written conditions later) :
      Written (condition :: conditions) (condition.arguments name ++ later)

/-- Why arguments do not begin with a condition. -/
inductive Refused : List Text → Fault → Prop where
  | unknownKind
      (unknown : ∀ kind : ConditionKind,
        Text.sameLetters kind.name.toList (readNegation argument).2 = false) :
      Refused (argument :: later) (.unknownKind (Text.lowercase (readNegation argument).2))
  | missingValue {kind : ConditionKind}
      (spelled : Text.sameLetters kind.name.toList (readNegation argument).2 = true)
      (takesValue : kind.takesValue = true) :
      Refused [argument] (.missingValue kind)

variable {conditions : List Condition} {written rest : List Text} {fault : Fault}

theorem readAll_arguments {condition : Condition} {name : Text}
    (spelled : Text.sameLetters condition.kind.name.toList name = true)
    (valued : condition.value.isSome = condition.kind.takesValue) (rest : List Text) :
    readAll (condition.arguments name ++ rest) = (readAll rest).map (condition :: ·) := by
  obtain ⟨kind, negated, value⟩ := condition
  have read : readNegation (writeNegation negated name) = (negated, name) :=
    readNegation_writeNegation fun _ => ConditionKind.unmarked_of_sameLetters spelled
  have known : ConditionKind.ofName? name = some kind := ConditionKind.ofName?_eq_some.mpr spelled
  cases value with
  | none =>
      have takesNone : kind.takesValue = false := valued.symm
      simp [arguments, readAll, read, known, takesNone]
  | some value =>
      have takes : kind.takesValue = true := valued.symm
      simp [arguments, readAll, read, known, takes]

theorem Written.readAll_append (complete : Written conditions written) (rest : List Text) :
    readAll (written ++ rest) = (readAll rest).map (conditions ++ ·) := by
  induction complete with
  | nothing => cases given : readAll rest <;> simp [given, Except.map]
  | more spelled valued others ih =>
      rw [List.append_assoc, readAll_arguments spelled valued, ih]
      cases readAll rest <;> rfl

theorem Refused.readAll_eq (refused : Refused rest fault) : readAll rest = .error fault := by
  cases refused with
  | unknownKind unknown =>
      have none := ConditionKind.ofName?_eq_none.mpr unknown
      simp [readAll, none]
  | missingValue spelled takesValue =>
      have known := ConditionKind.ofName?_eq_some.mpr spelled
      simp [readAll, known, takesValue]

/-- Arguments are read as conditions up to their end or to something that is refused. -/
theorem exists_written (given : List Text) :
    ∃ conditions written rest, written ++ rest = given ∧ Written conditions written ∧
      (rest = [] ∨ ∃ fault, Refused rest fault) := by
  fun_induction readAll given with
  | case1 => exact ⟨[], [], [], rfl, .nothing, .inl rfl⟩
  | case2 argument later name unknown =>
      have refused : Refused (argument :: later) _ :=
        .unknownKind (ConditionKind.ofName?_eq_none.mp unknown)
      exact ⟨[], [], argument :: later, rfl, .nothing, .inr ⟨_, refused⟩⟩
  | case3 argument name kind known takes =>
      have refused := Refused.missingValue (ConditionKind.ofName?_eq_some.mp known) takes
      exact ⟨[], [], [argument], rfl, .nothing, .inr ⟨_, refused⟩⟩
  | case4 argument negated name kind known takes value later ih =>
      obtain ⟨conditions, written, rest, rfl, complete, ends⟩ := ih
      have first : Written (⟨kind, negated, some value⟩ :: conditions) _ :=
        .more (ConditionKind.ofName?_eq_some.mp known) takes.symm complete
      refine ⟨_, _, rest, ?_, first, ends⟩
      simp [arguments, negated, name, writeNegation_readNegation]
  | case5 argument later negated name kind known takesNone ih =>
      obtain ⟨conditions, written, rest, rfl, complete, ends⟩ := ih
      have none : kind.takesValue = false := by simpa using takesNone
      have first : Written (⟨kind, negated, .none⟩ :: conditions) _ :=
        .more (ConditionKind.ofName?_eq_some.mp known) none.symm complete
      refine ⟨_, _, rest, ?_, first, ends⟩
      simp [arguments, negated, name, writeNegation_readNegation]

theorem readAll_eq_ok {given : List Text} :
    readAll given = .ok conditions ↔ Written conditions given := by
  constructor
  · intro read
    obtain ⟨found, written, rest, rfl, complete, rfl | ⟨fault, refused⟩⟩ := exists_written given
    · have same := complete.readAll_append []
      rw [read] at same
      cases same
      simpa using complete
    · rw [complete.readAll_append, refused.readAll_eq] at read
      cases read
  · intro complete
    simpa [readAll, Except.map] using complete.readAll_append []

theorem readAll_eq_error {given : List Text} :
    readAll given = .error fault ↔
      ∃ conditions written rest, written ++ rest = given ∧ Written conditions written ∧
        Refused rest fault := by
  constructor
  · intro read
    obtain ⟨found, written, rest, rfl, complete, rfl | ⟨cause, refused⟩⟩ := exists_written given
    · rw [complete.readAll_append] at read
      cases read
    · rw [complete.readAll_append, refused.readAll_eq] at read
      cases read
      exact ⟨found, written, rest, rfl, complete, refused⟩
  · rintro ⟨conditions, written, rest, rfl, complete, refused⟩
    rw [complete.readAll_append, refused.readAll_eq]
    rfl

theorem Refused.of_prefix {beginning : List Text} (refused : Refused rest fault)
    (begins : beginning <+: rest) (filled : beginning ≠ []) : Refused beginning fault := by
  obtain ⟨argument, later, rfl⟩ := List.exists_cons_of_ne_nil filled
  obtain ⟨tail, same⟩ := begins
  cases refused with
  | unknownKind unknown =>
      obtain ⟨rfl, -⟩ := List.cons.inj same
      exact .unknownKind unknown
  | missingValue spelled takesValue =>
      obtain ⟨rfl, empty⟩ := List.cons.inj same
      obtain ⟨rfl, -⟩ := List.append_eq_nil_iff.mp empty
      exact .missingValue spelled takesValue

/-- The longest beginning of arguments that conditions are written as. -/
structure LongestWritten (written given : List Text) : Prop where
  begins : written <+: given
  complete : ∃ conditions, Written conditions written
  longest : ∀ other conditions, other <+: given → Written conditions other →
    other.length ≤ written.length

theorem LongestWritten.of_refused (complete : Written conditions written)
    (refused : Refused rest fault) : LongestWritten written (written ++ rest) where
  begins := List.prefix_append written rest
  complete := ⟨conditions, complete⟩
  longest other others begins othersComplete := by
    refine Nat.not_lt.mp fun longer => ?_
    -- What stands behind the shorter beginning would be refused and read as conditions.
    obtain ⟨more, rfl⟩ : written <+: other :=
      List.prefix_of_prefix_length_le (List.prefix_append written rest) begins (by omega)
    have filled : more ≠ [] := by
      rintro rfl
      simp at longer
    have stopped : Refused more fault :=
      refused.of_prefix ((List.prefix_append_right_inj written).mp begins) filled
    have read := readAll_eq_ok.mpr othersComplete
    rw [complete.readAll_append, stopped.readAll_eq] at read
    cases read

end Condition

namespace Session

variable (session : Session) (given : List Text) (line : Nat)

theorem dispatch_matching_eq :
    session.dispatch .matching given line =
      match Condition.readAll given with
      | .ok conditions =>
          ({ session with
            draft := session.draft.openBlock (.matching conditions) ⟨session.place.source, line⟩ },
            none)
      | .error fault => (session, some (.ofCause (.conditions fault))) := by
  unfold dispatch SshConfig.dispatch Directive.read
  cases Condition.readAll given <;> rfl

/-- The keyword `Match` opens a block exactly if its arguments are written conditions, and then a
block with these.  Otherwise nothing changes, and the failure is about what stands behind the
longest beginning of the arguments that conditions are written as. -/
theorem dispatch_matching_iff (after : Session) :
    (session.dispatch .matching given line = (after, none) ↔
      ∃ conditions draft, Condition.Written conditions given ∧
        session.draft.GainsBlock (.matching conditions) ⟨session.place.source, line⟩ draft ∧
        after = { session with draft }) ∧
    ∀ failure, session.dispatch .matching given line = (after, some failure) ↔
      after = session ∧ ∃ written rest fault, written ++ rest = given ∧
        Condition.LongestWritten written given ∧ Condition.Refused rest fault ∧
        failure = Failure.ofCause (.conditions fault) := by
  rw [dispatch_matching_eq]
  constructor
  · cases read : Condition.readAll given with
    | ok conditions =>
        simp [← Condition.readAll_eq_ok, read, Draft.gainsBlock_iff, eq_comm]
    | error fault => simp [← Condition.readAll_eq_ok, read]
  · intro failure
    constructor
    · intro failed
      cases read : Condition.readAll given with
      | ok conditions =>
          rw [read] at failed
          cases failed
      | error fault =>
          rw [read] at failed
          cases failed
          obtain ⟨conditions, written, rest, rfl, complete, refused⟩ :=
            Condition.readAll_eq_error.mp read
          exact ⟨rfl, written, rest, fault, rfl, .of_refused complete refused, refused, rfl⟩
    · rintro ⟨rfl, written, rest, fault, rfl, longest, refused, rfl⟩
      obtain ⟨conditions, complete⟩ := longest.complete
      rw [complete.readAll_append, refused.readAll_eq]
      rfl

end Session

example :
    let session : Session :=
      { surroundings := ⟨fun _ => .error .notFound, {}⟩, place := ⟨['s'], []⟩ }
    let draft : Draft :=
      { config :=
          { blocks :=
              [⟨.matching [⟨.user, false, some ['u']⟩, ⟨.all, true, none⟩], ⟨['s'], 2⟩, {}⟩] }
        current := some 0 }
    let answer := session.parse "\nMatch user u !all".toList
    answer.1.draft = draft ∧ answer.2 = none := by decide +kernel

-- A value is taken whatever it looks like, a mark and the name of a kind included.
example :
    (Condition.readAll ["!uSER".toList, "!all".toList, "!All".toList]).toOption =
      some [⟨.user, true, some "!all".toList⟩, ⟨.all, true, none⟩] := by decide +kernel

end SshConfig
