import SshConfig.Proofs.Advance
import SshConfig.Proofs.Flattening
import SshConfig.Proofs.Precedence

namespace SshConfig

/-! What holds of every configuration in the making.

All values that a draft holds were read from arguments, so they have the form that reading
gives them, and the current block is one of the blocks that there are.  That much survives
failures too.  While nothing fails the current block is moreover the last one; a file that
fails leaves its blocks behind and takes the current block back to an earlier one.
-/

/-- Whether an agent is given in the form that its text asks for. -/
def IdentityAgent.WellFormed : IdentityAgent → Prop
  | .disabled => True
  | .environment name => name = "SSH_AUTH_SOCK".toList
  | .socket path =>
      Text.sameLetters path "none".toList = false ∧ path ≠ "SSH_AUTH_SOCK".toList

structure Options.WellFormed (options : Options) : Prop where
  identityAgent : ∀ agent, options.identityAgent = some agent → agent.WellFormed
  port : options.port ≠ some 0

def Header.WellFormed : Header → Prop
  | .host patterns =>
      ∀ pattern ∈ patterns, pattern.negated = false → pattern.pattern.head? ≠ some '!'
  | .matching conditions =>
      ∀ condition ∈ conditions, condition.value.isSome = condition.kind.takesValue

structure Draft.WellFormed (draft : Draft) : Prop where
  current : ∀ index, draft.current = some index → index < draft.config.blocks.length
  globalHostname : draft.config.options.hostname = none
  globalIdentityAgent : draft.config.options.identityAgent = none
  globalOptions : draft.config.options.WellFormed
  headers : ∀ block ∈ draft.config.blocks, block.header.WellFormed
  options : ∀ block ∈ draft.config.blocks, block.options.WellFormed

/-- Whether settings go to the last block, or to global scope if there is no block. -/
structure Draft.LastOpen (draft : Draft) : Prop where
  none : draft.current = none ↔ draft.config.blocks = []
  last : ∀ index, draft.current = some index → index + 1 = draft.config.blocks.length

theorem IdentityAgent.wellFormed_ofText (argument : Text) : (ofText argument).WellFormed := by
  unfold ofText
  split
  · trivial
  · rename_i notNone
    split
    · assumption
    · exact ⟨by simpa using notNone, by assumption⟩

theorem readNegation_head {text : Text} (unmarked : (readNegation text).1 = false) :
    (readNegation text).2.head? ≠ some '!' := by
  unfold readNegation at unmarked ⊢
  split at unmarked
  · cases unmarked
  · rename_i other
    intro marked
    obtain ⟨rest, rfl⟩ := List.head?_eq_some_iff.mp marked
    exact other rest rfl

theorem Condition.readAll_value {arguments : List Text} {conditions : List Condition}
    (given : readAll arguments = .ok conditions) :
    ∀ condition ∈ conditions, condition.value.isSome = condition.kind.takesValue := by
  fun_induction readAll arguments generalizing conditions with
  | case1 =>
      cases given
      simp
  | case2 | case3 => cases given
  | case4 argument negated name kind known takes value rest =>
      rename_i ih
      obtain ⟨later, others, rfl⟩ := map_eq_ok.mp given
      exact List.forall_mem_cons.mpr ⟨takes.symm, ih others⟩
  | case5 argument rest negated name kind known takesNone =>
      rename_i ih
      obtain ⟨later, others, rfl⟩ := map_eq_ok.mp given
      exact List.forall_mem_cons.mpr ⟨by simpa using takesNone, ih others⟩

theorem readPort?_ne_zero {text : Text} {number : UInt16} (given : readPort? text = some number) :
    number ≠ 0 := by
  unfold readPort? at given
  split at given
  · cases given
  · rename_i value _
    split at given
    · cases given
    · rename_i bounds
      cases given
      simp only [Bool.or_eq_true, decide_eq_true_eq, not_or, Nat.not_lt] at bounds
      intro zero
      have same := congrArg UInt16.toNat zero
      simp only [UInt16.toNat_ofNat', UInt16.toNat_zero] at same
      omega

theorem Directive.Reads.header_wellFormed {keyword : Keyword} {arguments : List Text}
    {header : Header} (reads : Reads keyword arguments (.header header)) :
    header.WellFormed := by
  cases reads with
  | host =>
      intro pattern member unmarked
      obtain ⟨argument, -, rfl⟩ := List.mem_map.mp member
      exact readNegation_head unmarked
  | matching given => exact Condition.readAll_value given

theorem Directive.Reads.setting_wellFormed {keyword : Keyword} {arguments : List Text}
    {setting : Setting} (reads : Reads keyword arguments (.setting setting)) :
    setting.options.WellFormed := by
  cases reads with
  | identityAgent =>
      refine ⟨?_, by simp [Setting.options]⟩
      rintro agent ⟨⟩
      exact IdentityAgent.wellFormed_ofText _
  | port given =>
      refine ⟨by simp [Setting.options], ?_⟩
      simpa [Setting.options] using readPort?_ne_zero given
  | hostname | identityFile | user => exact ⟨by simp [Setting.options], by simp [Setting.options]⟩

/-- A setting that has a meaning in global scope sets none of the two other options. -/
theorem Setting.apply_of_global {setting : Setting} (global : setting.needsBlock = false)
    (options : Options) :
    (setting.apply options).hostname = options.hostname ∧
      (setting.apply options).identityAgent = options.identityAgent := by
  cases setting with
  | hostname | identityAgent => cases global
  | identityFile | port | user => exact ⟨rfl, rfl⟩

theorem Options.WellFormed.absorb {options later : Options} (first : options.WellFormed)
    (second : later.WellFormed) : (options.absorb later).WellFormed where
  identityAgent agent set := by
    rcases Option.or_eq_some_iff.mp set with held | ⟨-, given⟩
    · exact first.identityAgent agent held
    · exact second.identityAgent agent given
  port zero := by
    rcases Option.or_eq_some_iff.mp zero with held | ⟨-, given⟩
    · exact first.port held
    · exact second.port given

theorem Options.wellFormed_empty : ({} : Options).WellFormed :=
  ⟨by simp, by simp⟩

namespace Draft

variable {draft after : Draft}

theorem Advances.length_le (advances : draft.Advances after) :
    draft.config.blocks.length ≤ after.config.blocks.length := by
  induction advances with
  | unchanged => exact Nat.le_refl _
  | header reads => simp [openBlock]
  | setting reads accepted =>
      obtain ⟨-, rfl⟩ := set_eq_ok.mp accepted
      simp
  | abandoned inside ih => exact ih
  | trans first second firstIH secondIH => exact Nat.le_trans firstIH secondIH

/-- Settings go where they are meant to go. -/
theorem WellFormed.scope_eq (wellFormed : draft.WellFormed) : draft.scope = draft.current := by
  unfold scope
  cases current : draft.current with
  | none => rfl
  | some index => simp [wellFormed.current index current]

theorem WellFormed.openBlock {header : Header} {origin : Origin}
    (wellFormed : draft.WellFormed) (headerWellFormed : header.WellFormed) :
    (draft.openBlock header origin).WellFormed where
  current index current := by
    cases current
    simp [Draft.openBlock]
  globalHostname := wellFormed.globalHostname
  globalIdentityAgent := wellFormed.globalIdentityAgent
  globalOptions := wellFormed.globalOptions
  headers := by
    simpa [Draft.openBlock, or_imp, forall_and] using ⟨wellFormed.headers, headerWellFormed⟩
  options := by
    simpa [Draft.openBlock, or_imp, forall_and] using
      ⟨wellFormed.options, Options.wellFormed_empty⟩

theorem mem_changeScope {change : Options → Options} {block : Block}
    (member : block ∈ (draft.changeScope change).config.blocks) :
    ∃ old ∈ draft.config.blocks, block.header = old.header ∧
      (block.options = old.options ∨ block.options = change old.options) := by
  obtain ⟨index, found⟩ := List.mem_iff_getElem?.mp member
  rw [changeScope_getElem?, Option.map_eq_some_iff] at found
  obtain ⟨old, earlier, rfl⟩ := found
  refine ⟨old, List.mem_of_getElem? earlier, ?_⟩
  split
  · exact ⟨rfl, .inr rfl⟩
  · exact ⟨rfl, .inl rfl⟩

theorem WellFormed.set {setting : Setting} (wellFormed : draft.WellFormed)
    (settingWellFormed : setting.options.WellFormed)
    (accepted : draft.set setting = .ok after) : after.WellFormed := by
  obtain ⟨placed, rfl⟩ := set_eq_ok.mp accepted
  have kept (options : Options) (held : options.WellFormed) :
      (setting.apply options).WellFormed := by
    rw [Setting.apply_eq_absorb]
    exact held.absorb settingWellFormed
  have global (none : draft.scope = none) (options : Options) :
      (setting.apply options).hostname = options.hostname ∧
        (setting.apply options).identityAgent = options.identityAgent := by
    refine setting.apply_of_global ?_ options
    cases needed : setting.needsBlock with
    | false => rfl
    | true => exact absurd none (placed needed)
  refine
    { current := ?_
      globalHostname := ?_
      globalIdentityAgent := ?_
      globalOptions := ?_
      headers := ?_
      options := ?_ }
  · simpa using wellFormed.current
  · rw [changeScope_options]
    split
    · rename_i none
      exact (global none _).1.trans wellFormed.globalHostname
    · exact wellFormed.globalHostname
  · rw [changeScope_options]
    split
    · rename_i none
      exact (global none _).2.trans wellFormed.globalIdentityAgent
    · exact wellFormed.globalIdentityAgent
  · rw [changeScope_options]
    split
    · exact kept _ wellFormed.globalOptions
    · exact wellFormed.globalOptions
  · intro block member
    obtain ⟨old, earlier, header, -⟩ := mem_changeScope member
    rw [header]
    exact wellFormed.headers old earlier
  · intro block member
    obtain ⟨old, earlier, -, same | changed⟩ := mem_changeScope member
    · rw [same]
      exact wellFormed.options old earlier
    · rw [changed]
      exact kept _ (wellFormed.options old earlier)

theorem Advances.wellFormed (advances : draft.Advances after) (wellFormed : draft.WellFormed) :
    after.WellFormed := by
  induction advances with
  | unchanged => exact wellFormed
  | header reads =>
      exact wellFormed.openBlock (Directive.read_eq_ok.mp reads).header_wellFormed
  | setting reads accepted =>
      exact wellFormed.set (Directive.read_eq_ok.mp reads).setting_wellFormed accepted
  | abandoned inside ih =>
      -- the block that is taken back was there before, and no block was removed
      refine { ih wellFormed with current := ?_ }
      intro index current
      exact Nat.lt_of_lt_of_le (wellFormed.current index current) inside.length_le
  | trans first second firstIH secondIH => exact secondIH (firstIH wellFormed)

theorem LastOpen.apply (lastOpen : draft.LastOpen) (statement : Statement) :
    (draft.apply statement).LastOpen := by
  cases statement with
  | header header origin => exact ⟨by simp [Draft.apply, Draft.openBlock], by
      simp [Draft.apply, Draft.openBlock]⟩
  | setting setting =>
      refine ⟨?_, ?_⟩
      · simpa [Draft.apply, ← List.length_eq_zero_iff] using lastOpen.none
      · simpa [Draft.apply] using lastOpen.last

theorem LastOpen.run (lastOpen : draft.LastOpen) (statements : List Statement) :
    (draft.run statements).LastOpen := by
  induction statements generalizing draft with
  | nil => exact lastOpen
  | cons statement rest ih => exact ih (lastOpen.apply statement)

end Draft

namespace Session

theorem perform_runsStatements {session : Session} {step : Step}
    (succeeded : (session.perform step).2 = none) :
    ∃ statements, session.draft.run statements = (session.perform step).1.draft := by
  have levels := session.nested_property (interpret_runsStatements session.surroundings)
  cases step with
  | parse text =>
      obtain ⟨statements, -, ran⟩ := interpret_runsStatements session.surroundings _ _ _ _ _
        (Outcome.eq_done succeeded)
      exact ⟨statements, ran⟩
  | dispatch keyword arguments line =>
      obtain ⟨_, -, statements, -, ran⟩ := dispatch_leads levels (Outcome.eq_done succeeded)
      exact ⟨statements, ran⟩

theorem run_wellFormed {session : Session} (steps : List Step)
    (wellFormed : session.draft.WellFormed) : (session.run steps).draft.WellFormed := by
  induction steps generalizing session with
  | nil => exact wellFormed
  | cons step rest ih => exact ih ((session.perform_advances step).wellFormed wellFormed)

theorem run_lastOpen {session : Session} {steps : List Step}
    (succeeds : session.Succeeds steps) (lastOpen : session.draft.LastOpen) :
    (session.run steps).draft.LastOpen := by
  induction steps generalizing session with
  | nil => exact lastOpen
  | cons step rest ih =>
      obtain ⟨statements, ran⟩ := perform_runsStatements succeeds.1
      have next : (session.perform step).1.draft.LastOpen := ran ▸ lastOpen.run statements
      exact ih succeeds.2 next

theorem fresh_wellFormed (surroundings : Surroundings) (place : Place) (depth : Nat)
    (source : Text) : (fresh surroundings place depth source).draft.WellFormed where
  current := by simp [fresh]
  globalHostname := rfl
  globalIdentityAgent := rfl
  globalOptions := Options.wellFormed_empty
  headers := by simp [fresh]
  options := by simp [fresh]

/-- Whatever a session is asked for, its draft stays well-formed, and settings go to the
current block; that is the last block as long as nothing fails. -/
theorem run_fresh_invariant (surroundings : Surroundings) (place : Place) (depth : Nat)
    (source : Text) (steps : List Step) :
    let session := fresh surroundings place depth source
    let left := (session.run steps).draft
    left.WellFormed ∧ left.scope = left.current ∧
      (session.Succeeds steps → left.LastOpen) := by
  intro session left
  have wellFormed : left.WellFormed :=
    run_wellFormed steps (fresh_wellFormed surroundings place depth source)
  have lastOpen : session.draft.LastOpen := ⟨by simp [session, fresh], by simp [session, fresh]⟩
  exact ⟨wellFormed, wellFormed.scope_eq, fun succeeds => run_lastOpen succeeds lastOpen⟩

/-- A header that is carried out by itself, and then a text that includes a file. -/
theorem run_fresh_invariant_inclusion :
    let included := "User u\nHost b".toList.map Char.toUInt8
    let surroundings : Surroundings := ⟨fun _ => .ok included, {}⟩
    let session := fresh surroundings ⟨['s'], "/c".toList⟩ 3 ['s']
    let steps : List Step := [.dispatch .host [['a']] 7, .parse "Include i\nPort 1".toList]
    let left := (session.run steps).draft
    session.Succeeds steps ∧
      left.WellFormed ∧ left.scope = left.current ∧ left.LastOpen := by
  intro included surroundings session steps left
  have succeeds : session.Succeeds steps := ⟨rfl, rfl, trivial⟩
  obtain ⟨wellFormed, inScope, lastOpen⟩ :=
    run_fresh_invariant surroundings ⟨['s'], "/c".toList⟩ 3 ['s'] steps
  exact ⟨succeeds, wellFormed, inScope, lastOpen succeeds⟩

-- A file that fails leaves its block, but settings go to the block before it again.
example :
    let included := "Host b\nPort x".toList.map Char.toUInt8
    let session := fresh ⟨fun _ => .ok included, {}⟩ ⟨['s'], "/c".toList⟩ 0 ['s']
    let left := (session.run [.parse "Host a\nInclude i".toList]).draft
    left.current = some 0 ∧ left.config.blocks.length = 2 :=
  ⟨rfl, rfl⟩

end Session

end SshConfig
