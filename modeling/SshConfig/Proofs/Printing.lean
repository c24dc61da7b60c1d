import SshConfig.CommandLine.Machine
import Mathlib.Data.List.Forall2

namespace SshConfig

/-! What is printed of a text.

A stream that shows colours prints it as it is.  Elsewhere only some of its characters are printed,
and none of them is a control character other than white space.  A text without control characters
is printed whole there too, and of one with complete control sequences in it all is printed but those.
-/

namespace Text

namespace ControlState

theorem isPrinted_of_prints {state : ControlState} {c : Char} (prints : state.prints c = true) :
    isPrinted c = true := by
  cases state <;> simp_all [ControlState.prints, isPrinted]

theorem readPiece_sublist (state : ControlState) (printing : Bool) (piece : Text) :
    (state.readPiece printing piece).1.Sublist piece := by
  fun_induction readPiece state printing piece with
  | case1 => exact List.Sublist.slnil
  | case2 state printing c rest chosen after printed last read ih =>
      rw [read] at ih
      exact ih.cons_cons c
  | case3 state printing c rest skipped ih => exact ih.cons c

theorem isPrinted_of_mem_readPiece {state : ControlState} {printing : Bool} {piece : Text}
    {c : Char} (within : c ∈ (state.readPiece printing piece).1) : isPrinted c = true := by
  fun_induction readPiece state printing piece with
  | case1 => cases within
  | case2 state printing first rest chosen after printed last read ih =>
      rw [read] at ih
      rcases List.mem_cons.mp within with rfl | later
      · rcases Bool.or_eq_true_iff.mp chosen with goesOn | starts
        · exact (Bool.and_eq_true_iff.mp goesOn).2
        · exact isPrinted_of_prints starts
      · exact ih later
  | case3 state printing first rest skipped ih => exact ih within

theorem readPieces_sublist (state : ControlState) (pieces : List Text) :
    (state.readPieces pieces).Sublist pieces.flatten := by
  induction pieces generalizing state with
  | nil => exact List.Sublist.slnil
  | cons piece rest ih => exact (readPiece_sublist state false piece).append (ih _)

theorem isPrinted_of_mem_readPieces {state : ControlState} {pieces : List Text} {c : Char}
    (within : c ∈ state.readPieces pieces) : isPrinted c = true := by
  induction pieces generalizing state with
  | nil => cases within
  | cons piece rest ih =>
      rcases List.mem_append.mp within with here | later
      · exact isPrinted_of_mem_readPiece here
      · exact ih later

end ControlState

/-- Whether a text is another with control characters and complete control sequences in it.
Such a sequence begins with an escape character and a bracket and ends at the first
character from `@` to `~`. -/
inductive Strips : Text → Text → Prop where
  | nil : Strips [] []
  | printed (shown : isPrinted c = true) (rest : Strips piece text) :
      Strips (c :: piece) (c :: text)
  | control (hidden : isPrinted c = false) (other : c ≠ '\x1b') (rest : Strips piece text) :
      Strips (c :: piece) text
  | sequence (parameters : ∀ c ∈ inside, 0x20 ≤ c.toNat ∧ c.toNat ≤ 0x3F)
      (final : 0x40 ≤ last.toNat ∧ last.toNat ≤ 0x7E) (rest : Strips piece text) :
      Strips ('\x1b' :: '[' :: (inside ++ last :: piece)) text

namespace ControlState

theorem ground_next {c : Char} (other : c ≠ '\x1b') : ground.next c = ground := by
  have code : c.toNat ≠ 0x1B := fun same => other (Char.toNat_inj.mp same)
  simp only [next, code, if_false]
  split <;> rfl

theorem isControlBlank_of_le {c : Char} (visible : 0x20 ≤ c.toNat) : isControlBlank c = false := by
  simp only [isControlBlank, Bool.or_eq_false_iff, beq_eq_false_iff_ne]
  refine ⟨⟨⟨?_, ?_⟩, ?_⟩, ?_⟩ <;> rintro rfl <;> revert visible <;> decide

theorem controlSequence_next {c : Char} (visible : 0x20 ≤ c.toNat) :
    controlSequence.next c =
      if 0x40 ≤ c.toNat ∧ c.toNat ≤ 0x7E then ground else controlSequence := by
  have plain : ¬ (c.toNat = 0x18 ∨ c.toNat = 0x1A) := by omega
  have other : c.toNat ≠ 0x1B := by omega
  simp [next, plain, other]

theorem readPiece_parameters {inside : Text} {last : Char} (piece : Text)
    (parameters : ∀ c ∈ inside, 0x20 ≤ c.toNat ∧ c.toNat ≤ 0x3F)
    (final : 0x40 ≤ last.toNat ∧ last.toNat ≤ 0x7E) :
    controlSequence.readPiece false (inside ++ last :: piece) = ground.readPiece false piece := by
  induction inside with
  | nil =>
      have visible : 0x20 ≤ last.toNat := by omega
      simp [readPiece, prints, isControlBlank_of_le visible, controlSequence_next visible, final]
  | cons c inside ih =>
      obtain ⟨visible, below⟩ := parameters c List.mem_cons_self
      have goesOn : ¬ (0x40 ≤ c.toNat ∧ c.toNat ≤ 0x7E) := by omega
      have later := ih fun other member => parameters other (List.mem_cons_of_mem _ member)
      rw [← later]
      simp [readPiece, prints, isControlBlank_of_le visible, controlSequence_next visible, goesOn]

theorem readPiece_controlSequence {inside : Text} {last : Char} (printing : Bool) (piece : Text)
    (parameters : ∀ c ∈ inside, 0x20 ≤ c.toNat ∧ c.toNat ≤ 0x3F)
    (final : 0x40 ≤ last.toNat ∧ last.toNat ≤ 0x7E) :
    ground.readPiece printing ('\x1b' :: '[' :: (inside ++ last :: piece)) =
      ground.readPiece false piece := by
  have escapes : isPrinted '\x1b' = false := rfl
  have bracket : isControlBlank '[' = false := rfl
  have begins : ground.next '\x1b' = escape := rfl
  have enters : escape.next '[' = controlSequence := rfl
  rw [← readPiece_parameters piece parameters final]
  simp [readPiece, prints, escapes, bracket, begins, enters]

theorem readPiece_of_strips {piece text : Text} (strips : Strips piece text) (printing : Bool) :
    ground.readPiece printing piece = (text, ground) := by
  induction strips generalizing printing with
  | nil => rfl
  | printed shown _ ih => simp [readPiece, prints, shown, ih]
  | control hidden other _ ih => simp [readPiece, prints, hidden, ground_next other, ih]
  | sequence parameters final _ ih => rw [readPiece_controlSequence printing _ parameters final, ih]

end ControlState

/-- What is printed of pieces with control sequences is what they are without them. -/
theorem printable_of_strips {pieces texts : List Text}
    (strips : List.Forall₂ Strips pieces texts) : printable pieces = texts.flatten := by
  unfold printable
  induction strips with
  | nil => rfl
  | cons first _ ih =>
      simp only [ControlState.readPieces, ControlState.readPiece_of_strips first, ih,
        List.flatten_cons]

theorem strips_self {piece : Text} (printed : ∀ c ∈ piece, isPrinted c = true) :
    Strips piece piece := by
  induction piece with
  | nil => exact .nil
  | cons c rest ih =>
      have others := ih fun other member => printed other (List.mem_cons_of_mem _ member)
      exact .printed (printed c List.mem_cons_self) others

/-- A text without control characters is printed as it is. -/
theorem printable_eq_flatten {pieces : List Text}
    (printed : ∀ piece ∈ pieces, ∀ c ∈ piece, isPrinted c = true) :
    printable pieces = pieces.flatten :=
  printable_of_strips (List.forall₂_same.mpr fun piece member => strips_self (printed piece member))

theorem printable_sublist (pieces : List Text) : (printable pieces).Sublist pieces.flatten :=
  ControlState.readPieces_sublist _ _

theorem isPrinted_of_mem_printable {pieces : List Text} {c : Char}
    (within : c ∈ printable pieces) : isPrinted c = true :=
  ControlState.isPrinted_of_mem_readPieces within

end Text

namespace CommandLine

/-- Whether a variable of the environment is set, and not to the empty text. -/
def Filled (machine : Machine) (name : String) : Prop :=
  ∃ value, machine.environment name = some value ∧ value ≠ []

/-- Whether the environment tells that a terminal shows colours: in so many words, by its kind, or
because software is built there. -/
inductive ColourTerminal (machine : Machine) : Prop where
  | told (set : machine.environment terminalColourVariable = some value) (shown : value ≠ ['0'])
  | kind (untold : machine.environment terminalColourVariable = none)
      (set : machine.environment terminalVariable = some value) (able : value ≠ "dumb".toList)
  | build (untold : machine.environment terminalColourVariable = none)
      (set : machine.environment buildVariable = some value)

/-- Whether a stream shows colours: they are not forbidden, and they are asked for or the stream
leads to a terminal that shows them. -/
def ShowsColours (machine : Machine) (stream : Stream) : Prop :=
  ¬ Filled machine plainVariable ∧
    (Filled machine colourVariable ∨
      machine.isTerminal stream = true ∧ ColourTerminal machine)

theorem isFilled_iff {machine : Machine} {name : String} :
    isFilled machine name = true ↔ Filled machine name := by
  unfold isFilled Filled
  cases machine.environment name <;> simp

theorem isColourTerminal_iff {machine : Machine} :
    isColourTerminal machine = true ↔ ColourTerminal machine := by
  unfold isColourTerminal
  constructor
  · intro able
    split at able
    · rename_i value told
      exact .told told (by simpa using able)
    · rename_i untold
      rcases Bool.or_eq_true_iff.mp able with byKind | built
      · obtain ⟨value, set, other⟩ := (Option.any_eq_true ..).mp byKind
        exact .kind untold set (by simpa using other)
      · obtain ⟨value, set⟩ := Option.isSome_iff_exists.mp built
        exact .build untold set
  · rintro (⟨told, shown⟩ | ⟨untold, set, able⟩ | ⟨untold, set⟩)
    · simpa [told] using shown
    · simpa [untold, set] using .inl able
    · simp [untold, set]

theorem isColoured_iff {machine : Machine} {stream : Stream} :
    isColoured machine stream = true ↔ ShowsColours machine stream := by
  simp only [isColoured, ShowsColours, ← isFilled_iff, ← isColourTerminal_iff, Bool.and_eq_true,
    Bool.or_eq_true, Bool.not_eq_true', Bool.not_eq_true]

theorem emit_eq_flatten {machine : Machine} {stream : Stream} (pieces : List Text)
    (shows : ShowsColours machine stream) : emit machine stream pieces = pieces.flatten :=
  if_pos (isColoured_iff.mpr shows)

theorem emit_eq_printable {machine : Machine} {stream : Stream} (pieces : List Text)
    (plain : ¬ ShowsColours machine stream) :
    emit machine stream pieces = Text.printable pieces :=
  if_neg (mt isColoured_iff.mp plain)

/-- A text without control characters other than white space is printed as it is, and so is any
text where colours are shown. -/
theorem emit_line {machine : Machine} {stream : Stream} {pieces : List Text}
    (whole : ShowsColours machine stream ∨ ∀ c ∈ pieces.flatten, Text.isPrinted c = true) :
    emit machine stream (pieces ++ [['\n']]) = pieces.flatten ++ ['\n'] := by
  have joined : (pieces ++ [['\n']]).flatten = pieces.flatten ++ ['\n'] := by simp
  rw [← joined]
  by_cases shows : ShowsColours machine stream
  · exact emit_eq_flatten _ shows
  · have text : ∀ c ∈ pieces.flatten, Text.isPrinted c = true := whole.resolve_left shows
    rw [emit_eq_printable _ shows]
    apply Text.printable_eq_flatten
    intro piece member c within
    rcases List.mem_append.mp member with written | feed
    · exact text c (List.mem_flatten.mpr ⟨piece, written, within⟩)
    · rw [List.mem_singleton.mp feed] at within
      rw [List.mem_singleton.mp within]
      rfl

/-- Where no colours are shown, nothing is added to a text, no control character of it is printed,
white space apart, and complete control sequences are left out. -/
theorem emit_plain {machine : Machine} {stream : Stream} (pieces : List Text)
    (plain : ¬ ShowsColours machine stream) :
    (emit machine stream pieces).Sublist pieces.flatten ∧
      (∀ c ∈ emit machine stream pieces, Text.isPrinted c = true) ∧
      ∀ texts, List.Forall₂ Text.Strips pieces texts →
        emit machine stream pieces = texts.flatten := by
  rw [emit_eq_printable pieces plain]
  exact ⟨Text.printable_sublist pieces, fun c => Text.isPrinted_of_mem_printable,
    fun texts => Text.printable_of_strips⟩

end CommandLine

end SshConfig
