import SshConfig.Proofs.Interpretation
import Mathlib.Data.List.Chain
import Mathlib.Logic.Relation

namespace SshConfig

/-! Interpretation step by step.

The texts that are being read lie on a stack, and every one of them has a counter that tells how
deep it lies.  A step begins a line, goes into a file that the line includes, or comes back from
a file.  Nothing in a step grows smaller by itself: what a file adds to the work is whatever the
surroundings hold, and the counter, a byte, would pass its end where no inclusion were refused.
-/

/-- A text that is being read. -/
structure Reading where
  place : Place
  depth : UInt8
  /-- The block that settings of this text go to. -/
  current : Option Nat
  /-- How many lines were begun. -/
  number : Nat := 0
  -- what the last of them has still to include, and the lines that were not begun
  arguments : List Text := []
  lines : List Text

structure Stack where
  config : Config
  /-- How the innermost text failed, if it did. -/
  failure : Option Failure := none
  innermost : Reading
  -- the nearest text first, and the last file first
  enclosing : List Reading := []
  asked : List Path := []

/-- What a step leads to. -/
inductive Progress where
  | going (stack : Stack)
  | halted (outcome : Outcome)
  /-- The counter of depth passed its end. -/
  | overflow

/-- The depth next to another one, as far as a byte can tell. -/
def nextDepth? (depth : UInt8) : Option UInt8 :=
  if depth.toNat + 1 < 256 then some (depth + 1) else none

namespace Stack

def start (place : Place) (depth : UInt8) (text : Text) (draft : Draft) : Stack where
  config := draft.config
  innermost := { place, depth, current := draft.current, lines := Text.lines text }

/-- What the innermost text has made of the draft. -/
def draft (stack : Stack) : Draft where
  config := stack.config
  current := stack.innermost.current

def holding (stack : Stack) (draft : Draft) : Stack :=
  { stack with
    config := draft.config
    innermost := { stack.innermost with current := draft.current } }

def failing (stack : Stack) (cause : ConfigError) : Stack :=
  { stack with failure := some ((Failure.ofCause cause).within (.line stack.innermost.number)) }

def including (stack : Stack) (arguments : List Text) : Stack :=
  { stack with innermost := { stack.innermost with arguments } }

/-- Carries out what a line asks for, as far as that needs no file. -/
def request (stack : Stack) : Except ConfigError (Option Directive) → Stack
  | .error cause => stack.failing cause
  | .ok none => stack
  | .ok (some (.header header)) =>
      stack.holding (stack.draft.openBlock header
        ⟨stack.innermost.place.source, stack.innermost.number⟩)
  | .ok (some (.setting setting)) =>
      match stack.draft.set setting with
      | .error cause => stack.failing cause
      | .ok draft => stack.holding draft
  | .ok (some (.inclusion arguments)) => stack.including arguments

def beginLine (stack : Stack) (line : Text) (lines : List Text) : Stack :=
  request
    { stack with innermost :=
        { stack.innermost with number := stack.innermost.number + 1, lines } }
    (Directive.ofLine line)

def enter (stack : Stack) (depth : UInt8) (path : Path) (text : Text) : Stack :=
  { stack with
    innermost :=
      { place := .ofFile path, depth, current := stack.innermost.current
        lines := Text.lines text }
    enclosing := stack.innermost :: stack.enclosing }

/-- Goes into the file that the next argument of an inclusion names. -/
def beginFile (stack : Stack) (surroundings : Surroundings) (argument : Text) : Progress :=
  match includedPath surroundings.home stack.innermost.place.directory argument with
  | .error cause => .going (stack.failing cause)
  | .ok path =>
      -- the depth is looked at before the file is asked for, and counted up after that
      if stack.innermost.depth.toNat < includeLimit then
        let asking := { stack with asked := path :: stack.asked }
        match surroundings.files.text path with
        | .error reason =>
            .going (asking.failing (.unreadable .included argument (some path) reason))
        | .ok text =>
            match nextDepth? stack.innermost.depth with
            | none => .overflow
            | some depth => .going (asking.enter depth path text)
      else .going (stack.failing .includeDepth)

/-- Takes the innermost text off the stack.  The text around it goes on with the current block
that was left, but if the innermost text failed, then with its own, and it fails on its line. -/
def finish (stack : Stack) : Progress :=
  match stack.enclosing, stack.failure with
  | [], failure => .halted { draft := stack.draft, failure }
  | outer :: enclosing, none =>
      .going { stack with
        innermost := { outer with current := stack.innermost.current }, enclosing }
  | outer :: enclosing, some failure =>
      .going { stack with
        failure := some ((failure.within (.file stack.innermost.place.source)).within
          (.line outer.number))
        innermost := outer, enclosing }

def advance (stack : Stack) (surroundings : Surroundings) : Progress :=
  match stack.failure, stack.innermost.arguments, stack.innermost.lines with
  | some _, _, _ => stack.finish
  | none, argument :: arguments, _ => (stack.including arguments).beginFile surroundings argument
  | none, [], line :: lines => .going (stack.beginLine line lines)
  | none, [], [] => stack.finish

/-- Whether some number of steps leads from one stack to the other. -/
abbrev RunsTo (surroundings : Surroundings) : Stack → Stack → Prop :=
  Relation.ReflTransGen fun stack next => stack.advance surroundings = .going next

def depths (stack : Stack) : List UInt8 :=
  (stack.innermost :: stack.enclosing).map Reading.depth

/-- Whether every text lies deeper than the text around it, and no deeper than the limit. -/
def Deepening (stack : Stack) : Prop :=
  stack.depths.IsChain fun inner outer => outer < inner ∧ inner ≤ 16

variable {surroundings : Surroundings} {stack next : Stack}

/-- Whether the innermost text is the same, with the same lines to begin, and nothing around it is
any different. -/
structure SameText (stack next : Stack) : Prop where
  place : next.innermost.place = stack.innermost.place
  depth : next.innermost.depth = stack.innermost.depth
  lines : next.innermost.lines = stack.innermost.lines
  enclosing : next.enclosing = stack.enclosing
  asked : next.asked = stack.asked

theorem request_sameText (asks : Except ConfigError (Option Directive)) :
    SameText stack (stack.request asks) := by
  unfold request
  split
  · exact ⟨rfl, rfl, rfl, rfl, rfl⟩
  · exact ⟨rfl, rfl, rfl, rfl, rfl⟩
  · exact ⟨rfl, rfl, rfl, rfl, rfl⟩
  · split <;> exact ⟨rfl, rfl, rfl, rfl, rfl⟩
  · exact ⟨rfl, rfl, rfl, rfl, rfl⟩

theorem SameText.depths (same : SameText stack next) : next.depths = stack.depths := by
  simp only [Stack.depths, List.map_cons, same.depth, same.enclosing]

theorem nextDepth?_of_lt {depth : UInt8} (shallow : depth.toNat < includeLimit) :
    ∃ next, nextDepth? depth = some next ∧ next.toNat = depth.toNat + 1 := by
  have limited : depth.toNat < 16 := shallow
  have fits : depth.toNat + 1 < 256 := by omega
  refine ⟨depth + 1, by rw [nextDepth?, if_pos fits], ?_⟩
  rw [UInt8.toNat_add, UInt8.toNat_one, Nat.mod_eq_of_lt fits]

theorem beginFile_ne_overflow (argument : Text) :
    stack.beginFile surroundings argument ≠ .overflow := by
  unfold beginFile
  split
  · simp
  · split
    · rename_i shallow
      obtain ⟨depth, counted, -⟩ := nextDepth?_of_lt shallow
      split <;> simp [counted]
    · simp

theorem finish_ne_overflow : stack.finish ≠ .overflow := by
  unfold finish
  split <;> simp

/-- The counter of depth never passes its end, as inclusion is refused long before. -/
theorem advance_ne_overflow : stack.advance surroundings ≠ .overflow := by
  unfold advance
  split
  · exact finish_ne_overflow
  · exact beginFile_ne_overflow _
  · simp
  · exact finish_ne_overflow

theorem beginFile_depths {argument : Text}
    (begun : stack.beginFile surroundings argument = .going next) :
    next.depths = stack.depths ∨
      ∃ depth, next.depths = depth :: stack.depths ∧
        stack.innermost.depth < depth ∧ depth ≤ 16 := by
  unfold beginFile at begun
  split at begun
  · cases begun
    exact .inl rfl
  · split at begun
    · rename_i shallow
      obtain ⟨depth, counted, deeper⟩ := nextDepth?_of_lt shallow
      have limited : stack.innermost.depth.toNat < 16 := shallow
      dsimp only at begun
      split at begun
      · cases begun
        exact .inl rfl
      · rw [counted] at begun
        cases begun
        refine .inr ⟨depth, rfl, ?_, ?_⟩
        · rw [UInt8.lt_iff_toNat_lt]
          omega
        · have limit : (16 : UInt8).toNat = 16 := rfl
          rw [UInt8.le_iff_toNat_le, limit]
          omega
    · cases begun
      exact .inl rfl

theorem finish_depths (finished : stack.finish = .going next) :
    next.depths = stack.depths.tail := by
  unfold finish at finished
  split at finished
  · cases finished
  · rename_i outer enclosing around unfailed
    cases finished
    simp [depths, around]
  · rename_i outer enclosing failure around failed
    cases finished
    simp [depths, around]

theorem Deepening.advance (deepening : stack.Deepening)
    (advanced : stack.advance surroundings = .going next) : next.Deepening := by
  unfold Deepening at deepening ⊢
  unfold Stack.advance at advanced
  split at advanced
  · rw [finish_depths advanced]
    exact deepening.tail
  · rcases beginFile_depths advanced with same | ⟨depth, pushed, deeper, limited⟩
    · rw [same]
      exact deepening
    · rw [pushed]
      exact .cons_cons ⟨deeper, limited⟩ deepening
  · cases advanced
    rw [beginLine, (request_sameText _).depths]
    exact deepening
  · rw [finish_depths advanced]
    exact deepening.tail

theorem RunsTo.deepening {last : Stack} (runs : RunsTo surroundings stack last)
    (deepening : stack.Deepening) : last.Deepening := by
  induction runs with
  | refl => exact deepening
  | tail _ step ih => exact ih.advance step

/-- Why an argument is refused where no file is included any more. -/
def refusal (surroundings : Surroundings) (place : Place) (argument : Text) : ConfigError :=
  match includedPath surroundings.home place.directory argument with
  | .error cause => cause
  | .ok _ => .includeDepth

theorem beginFile_of_deep {argument : Text} (deep : includeLimit ≤ stack.innermost.depth.toNat) :
    stack.beginFile surroundings argument =
      .going (stack.failing (refusal surroundings stack.innermost.place argument)) := by
  unfold beginFile refusal
  split
  · rfl
  · rw [if_neg (Nat.not_lt_of_le deep)]

theorem finish_asked (finished : stack.finish = .going next) : next.asked = stack.asked := by
  unfold finish at finished
  split at finished <;> cases finished <;> rfl

theorem advance_asked_of_deep (deep : includeLimit ≤ stack.innermost.depth.toNat)
    (advanced : stack.advance surroundings = .going next) : next.asked = stack.asked := by
  unfold Stack.advance at advanced
  split at advanced
  · exact finish_asked advanced
  · rename_i argument rest unfailed left
    have deepStill : includeLimit ≤ (stack.including rest).innermost.depth.toNat := deep
    rw [beginFile_of_deep deepStill] at advanced
    cases advanced
    rfl
  · cases advanced
    exact (request_sameText _).asked
  · exact finish_asked advanced

theorem advance_of_argument {argument : Text} {rest : List Text}
    (unfailed : stack.failure = none) (left : stack.innermost.arguments = argument :: rest) :
    stack.advance surroundings = (stack.including rest).beginFile surroundings argument := by
  simp only [Stack.advance, unfailed, left]

end Stack

end SshConfig
