import SshConfig.Proofs.Correspondence

namespace SshConfig

/-! The depth of a text, and what it decides.

Depth is compared with the limit and with nothing else.  A text that is read with more levels of
inclusion left goes the same way step by step, up to the inclusion, if there is one, that is
refused where fewer are left.
-/

namespace Outcome

/-- Whether an inclusion was refused because it stands too deep. -/
def TooDeep (outcome : Outcome) : Prop :=
  ∃ failure, outcome.failure = some failure ∧ failure.cause = .includeDepth

variable {outcome : Outcome}

theorem TooDeep.andThen (tooDeep : outcome.TooDeep) (next : Draft → Outcome) :
    (outcome.andThen next).TooDeep := by
  obtain ⟨failure, failed, cause⟩ := tooDeep
  rw [eq_failed failed]
  exact ⟨failure, rfl, cause⟩

theorem TooDeep.within (tooDeep : outcome.TooDeep) (layer : Layer) :
    (outcome.within layer).TooDeep := by
  obtain ⟨failure, failed, cause⟩ := tooDeep
  rw [eq_failed failed]
  exact ⟨failure.within layer, rfl, cause⟩

theorem TooDeep.leaving (tooDeep : outcome.TooDeep) (path : Path) (before : Draft) :
    (outcome.leaving path before).TooDeep := by
  obtain ⟨failure, failed, cause⟩ := tooDeep
  rw [eq_failed failed]
  exact ⟨failure.within (.file path), rfl, cause⟩

end Outcome

theorem tooDeep_or_eq_correspondence :
    Correspondence Eq fun left right => left.TooDeep ∨ left = right where
  done := by
    intro draft other same
    cases same
    exact .inr rfl
  refused := by
    intro draft other cause same
    cases same
    exact .inr rfl
  openBlock := by
    intro draft other header origin same
    cases same
    rfl
  set := by
    intro draft other setting same
    cases same
    exact .inr rfl
  andThen := by
    intro left right next last first related
    rcases first with tooDeep | same
    · exact .inl (tooDeep.andThen next)
    · cases same
      rcases left with ⟨draft, _ | failure⟩
      · exact related draft draft rfl
      · exact .inr rfl
  within := by
    intro left right layer first
    rcases first with tooDeep | same
    · exact .inl (tooDeep.within layer)
    · exact .inr (congrArg (Outcome.within layer) same)
  leaving := by
    intro draft other left right path before inner
    cases before
    rcases inner with tooDeep | same
    · exact .inl (tooDeep.leaving path draft)
    · exact .inr (congrArg (Outcome.leaving path draft) same)

theorem includeFile_tooDeep_or_eq {surroundings : Surroundings} (others : Option Interpretation)
    (place : Place) (argument : Text) (draft : Draft) :
    (includeFile surroundings none place argument draft).TooDeep ∨
      includeFile surroundings none place argument draft =
        includeFile surroundings others place argument draft := by
  unfold includeFile
  cases includedPath surroundings.home place.directory argument with
  | error cause => exact .inr rfl
  | ok path => exact .inl ⟨_, rfl, rfl⟩

theorem interpret_tooDeep_or_eq (surroundings : Surroundings) {levels more : Nat}
    (atLeast : levels ≤ more) (place : Place) (text : Text) (draft : Draft) :
    (interpret surroundings levels place text draft).TooDeep ∨
      interpret surroundings levels place text draft =
        interpret surroundings more place text draft := by
  obtain ⟨deeper, rfl⟩ := Nat.exists_eq_add_of_le atLeast
  refine tooDeep_or_eq_correspondence.relates_interpret levels deeper ?_ place text draft draft rfl
  intro place argument draft other same
  cases same
  exact includeFile_tooDeep_or_eq _ place argument draft

/-- A text that does not fail for its depth does the same at every smaller depth, also where it
fails. -/
theorem Session.parse_eq_of_shallower (session : Session) (text : Text) (depth : Nat)
    (shallower : depth ≤ session.depth)
    (otherwise : ∀ failure, (session.parse text).2 = some failure →
      failure.cause ≠ .includeDepth) :
    { session with depth }.parse text =
      ({ (session.parse text).1 with depth }, (session.parse text).2) := by
  have levels : includeLimit - session.depth ≤ includeLimit - depth := by omega
  rcases interpret_tooDeep_or_eq session.surroundings levels session.place text session.draft
    with ⟨failure, failed, deep⟩ | same
  · exact absurd deep (otherwise failure failed)
  · simp only [parse, after, interpretAt, same]

/-- A file that fails on its last level of inclusion fails in the same way with more of them. -/
theorem Session.parse_eq_of_shallower_failing :
    let included := "Host b\nPort x".toList.map Char.toUInt8
    let session : Session :=
      { surroundings := ⟨fun _ => .ok included, {}⟩, place := ⟨['s'], "/c".toList⟩, depth := 15 }
    let text := "Host a\nInclude i".toList
    2 ≤ session.depth ∧
      (∀ failure, (session.parse text).2 = some failure → failure.cause ≠ .includeDepth) ∧
      { session with depth := 2 }.parse text =
        ({ (session.parse text).1 with depth := 2 }, (session.parse text).2) := by
  intro included session text
  have shallower : 2 ≤ session.depth := by decide
  have otherwise : ∀ failure, (session.parse text).2 = some failure →
      failure.cause ≠ .includeDepth := by
    intro failure failed
    have known : (session.parse text).2 =
        some ⟨[.line 2, .file "/c/i".toList, .line 2], .notANumber .port⟩ := rfl
    rw [known] at failed
    cases failed
    decide
  exact ⟨shallower, otherwise, session.parse_eq_of_shallower text 2 shallower otherwise⟩

-- One level deeper the same text fails for its depth, so the condition cannot be left out.
example :
    let session : Session :=
      { surroundings := ⟨fun _ => .ok [], {}⟩, place := ⟨['s'], "/c".toList⟩ }
    ({ session with depth := 15 }.parse "Include i".toList).2 = none ∧
      ({ session with depth := 16 }.parse "Include i".toList).2 =
        some ⟨[.line 1], .includeDepth⟩ :=
  ⟨rfl, rfl⟩

end SshConfig
