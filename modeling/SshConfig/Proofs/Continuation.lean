import SshConfig.Proofs.Correspondence
import SshConfig.Proofs.Lines

namespace SshConfig

/-! A text that goes on after a line feed.

What stands after the line feed does what it would do as a text of its own, read in the same
session afterwards.  Only its lines have higher numbers, and these show in two places: where a
block was opened by one of the lines, and in the outermost layer of a failure.  The files that the
lines include count lines of their own.
-/

def Block.lowered (lines : Nat) (block : Block) : Block :=
  { block with origin := { block.origin with line := block.origin.line + lines } }

/-- The draft whose blocks at the given places were opened further down by some lines. -/
def Draft.lowered (lines : Nat) (places : List Nat) (draft : Draft) : Draft :=
  { draft with
    config := { draft.config with
      blocks := draft.config.blocks.mapIdx fun place block =>
        if place ∈ places then block.lowered lines else block } }

def Outcome.lowered (lines : Nat) (places : List Nat) (outcome : Outcome) : Outcome :=
  { outcome with draft := outcome.draft.lowered lines places }

/-- The failure of a line that stands further down by some lines. -/
def Failure.lowered (lines : Nat) (failure : Failure) : Failure :=
  match failure.layers with
  | .line number :: inner => { failure with layers := .line (number + lines) :: inner }
  | _ => failure

/-- The place of the block that a line opens itself, if it opens one. -/
def ownBlock (line : Text) (draft : Draft) : List Nat :=
  match Directive.ofLine line with
  | .ok (some (.header _)) => [draft.config.blocks.length]
  | _ => []

/-- The places of the blocks that lines open themselves.  The blocks of the files that they
include are not among them. -/
def ownBlocks (surroundings : Surroundings) (nested : Option Interpretation) (place : Place) :
    Nat → List Text → Draft → List Nat
  | _, [], _ => []
  | number, line :: rest, draft =>
      let outcome := interpretLine surroundings nested place number line draft
      ownBlock line draft ++
        match outcome.failure with
        | none => ownBlocks surroundings nested place (number + 1) rest outcome.draft
        | some _ => []

/-- The places of the blocks that the lines of a text open themselves. -/
def Session.ownBlocks (session : Session) (text : Text) : List Nat :=
  SshConfig.ownBlocks session.surroundings session.nested session.place 1 (Text.lines text)
    session.draft

namespace Draft

variable (lines : Nat) {places : List Nat} {draft : Draft}

/-- Whether blocks stand at all of the places. -/
def Holds (places : List Nat) (draft : Draft) : Prop :=
  ∀ place ∈ places, place < draft.config.blocks.length

theorem Holds.openBlock (holds : draft.Holds places) (header : Header) (origin : Origin) :
    (draft.openBlock header origin).Holds places := by
  intro place member
  have before := holds place member
  simp only [Draft.openBlock, List.length_append, List.length_singleton]
  omega

theorem Holds.openBlock_self (holds : draft.Holds places) (header : Header) (origin : Origin) :
    (draft.openBlock header origin).Holds (places ++ [draft.config.blocks.length]) := by
  intro place member
  rcases List.mem_append.mp member with old | new
  · exact holds.openBlock header origin place old
  · simp only [List.mem_singleton.mp new, Draft.openBlock, List.length_append,
      List.length_singleton]
    omega

theorem Holds.set (holds : draft.Holds places) (setting : Setting) :
    (Outcome.ofResult draft (draft.set setting)).draft.Holds places := by
  intro place member
  have before := holds place member
  unfold Draft.set
  split
  · exact before
  · simpa [Outcome.ofResult] using before

theorem lowered_nil (draft : Draft) : draft.lowered lines [] = draft := by
  have same : draft.config.blocks.mapIdx
      (fun place block => if place ∈ ([] : List Nat) then block.lowered lines else block) =
        draft.config.blocks := by
    apply List.ext_getElem?
    intro place
    simp
  rw [lowered, same]

theorem lowered_scope : (draft.lowered lines places).scope = draft.scope := by
  simp only [scope, lowered, List.length_mapIdx]

/-- A block that is opened does not stand at any of the places. -/
theorem lowered_openBlock (holds : draft.Holds places) (header : Header) (origin : Origin) :
    (draft.lowered lines places).openBlock header origin =
      (draft.openBlock header origin).lowered lines places := by
  have outside : draft.config.blocks.length ∉ places := fun member =>
    absurd (holds _ member) (Nat.lt_irrefl _)
  simp [openBlock, lowered, List.mapIdx_append, outside]

/-- A block that is opened further down by some lines. -/
theorem openBlock_lowered (places : List Nat) (header : Header) (source : Text) (number : Nat) :
    (draft.lowered lines places).openBlock header ⟨source, number + lines⟩ =
      (draft.openBlock header ⟨source, number⟩).lowered lines
        (places ++ [draft.config.blocks.length]) := by
  have kept : draft.config.blocks.mapIdx (fun place block =>
        if place ∈ places ++ [draft.config.blocks.length] then block.lowered lines else block) =
      draft.config.blocks.mapIdx fun place block =>
        if place ∈ places then block.lowered lines else block := by
    apply List.mapIdx_eq_mapIdx_iff.mpr
    intro place within
    have other : place ≠ draft.config.blocks.length := Nat.ne_of_lt within
    simp [other]
  simp only [openBlock, lowered, List.mapIdx_append, kept, List.length_mapIdx]
  simp [Block.lowered]

theorem lowered_changeScope (change : Options → Options) :
    (draft.lowered lines places).changeScope change =
      (draft.changeScope change).lowered lines places := by
  unfold changeScope
  rw [lowered_scope]
  cases inScope : draft.scope with
  | none => rfl
  | some index =>
      simp only [lowered]
      congr 2
      apply List.ext_getElem?
      intro place
      simp only [List.getElem?_modify, List.getElem?_mapIdx]
      cases draft.config.blocks[place]? with
      | none => rfl
      | some block => by_cases member : place ∈ places <;> by_cases here : index = place <;>
          simp [member, here, Block.lowered]

theorem lowered_set (setting : Setting) :
    Outcome.ofResult (draft.lowered lines places) ((draft.lowered lines places).set setting) =
      (Outcome.ofResult draft (draft.set setting)).lowered lines places := by
  unfold set
  rw [lowered_scope]
  split
  · rfl
  · rw [lowered_changeScope]
    rfl

end Draft

/-- Whether a draft has the places, and another one its blocks opened further down there. -/
def LoweredDrafts (lines : Nat) (places : List Nat) (draft other : Draft) : Prop :=
  draft.lowered lines places = other ∧ draft.Holds places

def LoweredOutcomes (lines : Nat) (places : List Nat) (outcome other : Outcome) : Prop :=
  outcome.lowered lines places = other ∧ outcome.draft.Holds places

/-- Places that a draft has are the same blocks in all that is made of it. -/
theorem lowered_correspondence (lines : Nat) (places : List Nat) :
    Correspondence (LoweredDrafts lines places) (LoweredOutcomes lines places) where
  done := by
    rintro draft other ⟨rfl, holds⟩
    exact ⟨rfl, holds⟩
  refused := by
    rintro draft other cause ⟨rfl, holds⟩
    exact ⟨rfl, holds⟩
  openBlock := by
    rintro draft other header origin ⟨rfl, holds⟩
    exact ⟨(draft.lowered_openBlock lines holds header origin).symm,
      holds.openBlock header origin⟩
  set := by
    rintro draft other setting ⟨rfl, holds⟩
    exact ⟨(draft.lowered_set lines setting).symm, holds.set setting⟩
  andThen := by
    rintro left right next last ⟨rfl, holds⟩ related
    rcases left with ⟨draft, _ | failure⟩
    · exact related draft _ ⟨rfl, holds⟩
    · exact ⟨rfl, holds⟩
  within := by
    rintro left right layer ⟨rfl, holds⟩
    exact ⟨rfl, holds⟩
  leaving := by
    rintro draft other left right path ⟨rfl, -⟩ ⟨rfl, holds⟩
    rcases left with ⟨after, _ | failure⟩ <;> exact ⟨rfl, holds⟩

/-- Whether included files do not depend on where blocks were opened before. -/
def LowersFiles (surroundings : Surroundings) (nested : Option Interpretation) (place : Place) :
    Prop :=
  ∀ lines places, Correspondence.RelatesFiles (LoweredDrafts lines places)
    (LoweredOutcomes lines places) surroundings nested nested place

theorem Session.lowersFiles (session : Session) :
    LowersFiles session.surroundings session.nested session.place := by
  intro lines places
  have correspondence := lowered_correspondence lines places
  cases nesting : session.nested with
  | none => exact correspondence.relates_includeFile_none
  | some interpretation =>
      obtain ⟨-, rfl⟩ := Session.nested_eq_some.mp nesting
      exact correspondence.relates_includeFile_some
        (correspondence.relates_interpret _ 0 fun _ => correspondence.relates_includeFile_none)

variable {surroundings : Surroundings} {nested : Option Interpretation} {place : Place}
  {places : List Nat} {draft : Draft}

theorem interpretLine_lowered (files : LowersFiles surroundings nested place) (lines number : Nat)
    (line : Text) (holds : draft.Holds places) :
    LoweredOutcomes lines (places ++ ownBlock line draft)
      (interpretLine surroundings nested place number line draft)
      (interpretLine surroundings nested place (number + lines) line
        (draft.lowered lines places)) := by
  have correspondence := lowered_correspondence lines places
  have start : LoweredDrafts lines places draft (draft.lowered lines places) := ⟨rfl, holds⟩
  rw [interpretLine_eq, interpretLine_eq, ownBlock]
  cases Directive.ofLine line with
  | error cause =>
      rw [List.append_nil]
      exact correspondence.refused start
  | ok asked =>
      cases asked with
      | none =>
          rw [List.append_nil]
          exact correspondence.done start
      | some directive =>
          cases directive with
          | header header =>
              have opened := draft.openBlock_lowered lines places header place.source number
              exact ⟨congrArg (fun draft => ({ draft } : Outcome)) opened.symm,
                holds.openBlock_self header _⟩
          | setting setting =>
              rw [List.append_nil]
              exact correspondence.set start
          | inclusion arguments =>
              rw [List.append_nil]
              exact correspondence.relates_includeFiles (files lines places) arguments start

theorem interpretLines_lowered (files : LowersFiles surroundings nested place)
    (lines number : Nat) (texts : List Text) (holds : draft.Holds places) :
    let outcome := interpretLines surroundings nested place number texts draft
    let own := ownBlocks surroundings nested place number texts draft
    interpretLines surroundings nested place (number + lines) texts
        (draft.lowered lines places) =
      ⟨outcome.draft.lowered lines (places ++ own), outcome.failure.map (.lowered lines)⟩ := by
  induction texts generalizing number draft places with
  | nil => simp [interpretLines, ownBlocks]
  | cons line rest ih =>
      obtain ⟨first, holdsAfter⟩ := interpretLine_lowered files lines number line holds
      simp only [interpretLines, ownBlocks, ← first]
      generalize interpretLine surroundings nested place number line draft = outcome
        at holdsAfter ⊢
      rcases outcome with ⟨after, _ | failure⟩
      · have others := ih (number + 1) holdsAfter
        have next : number + lines + 1 = number + 1 + lines := by omega
        simpa only [Outcome.andThen, Outcome.within, Outcome.lowered, Option.map_none, next,
          List.append_assoc] using others
      · simp [Outcome.andThen, Outcome.within, Outcome.lowered, Failure.lowered, Failure.within]

/-- A text that goes on after a line feed does what its two parts do one after the other, and
stops at the first part if that fails.  The lines of the second part have higher numbers, which
shows where they open blocks themselves and in the outermost layer of their failure. -/
theorem Session.parse_append (session : Session) (first second : Text) :
    session.parse (first ++ '\n' :: second) =
      match session.parse first with
      | (middle, some failure) => (middle, some failure)
      | (middle, none) =>
          let lines := 1 + first.count '\n'
          let (last, failure) := middle.parse second
          ({ last with draft := last.draft.lowered lines (middle.ownBlocks second) },
            failure.map (.lowered lines)) := by
  have whole := interpretLines_lines_append session.surroundings session.nested session.place
    first second session.draft
  simp only [parse, after, interpretAt_eq_interpretLines, whole]
  rcases interpretLines session.surroundings session.nested session.place 1 (Text.lines first)
    session.draft with ⟨middle, _ | failure⟩
  · have nowhere : middle.Holds [] := by simp [Draft.Holds]
    have rest := interpretLines_lowered session.lowersFiles (1 + first.count '\n') 1
      (Text.lines second) nowhere
    simp only [Draft.lowered_nil, List.nil_append] at rest
    simp only [Outcome.andThen, rest]
    rfl
  · rfl

-- The included file opens a block on its own first line, in between two lines of the text.
example :
    let session : Session :=
      { surroundings := ⟨fun _ => .ok ("Host c".toList.map Char.toUInt8), {}⟩
        place := ⟨['s'], "/d".toList⟩ }
    ((session.parse "Host a\n\nInclude i\nHost b".toList).1.draft.config.blocks.map
        fun block => (block.origin.source, block.origin.line)) =
      [(['s'], 1), ("/d/i".toList, 1), (['s'], 4)] := rfl

end SshConfig
