import SshConfig.Proofs.KeywordLine
import SshConfig.Proofs.LetterCase

namespace SshConfig

/-! How a keyword is set off from its arguments.

White space sets a keyword off, and so does an equals sign with or without white space on either
side of it.  None of that is part of the arguments, and neither is the white space around the line.
So a line says the same however its keyword is set off, and in whatever case of its letters it is
written, also where the keyword is not known or the arguments are not written as they should be.
-/

namespace Text

theorem trimEnd_cons (c : Char) (rest : Text) :
    trimEnd (c :: rest) =
      if trimEnd rest = [] ∧ isBlank c = true then [] else c :: trimEnd rest := by
  unfold trimEnd
  rw [List.reverse_cons, List.dropWhile_append]
  by_cases blank : isBlank c = true <;> cases rest.reverse.dropWhile isBlank <;> simp [blank]

theorem trimEnd_append_of_ink {word : Text} (ink : ∀ c ∈ word, isBlank c = false) (rest : Text) :
    trimEnd (word ++ rest) = word ++ trimEnd rest := by
  induction word with
  | nil => rfl
  | cons c word ih =>
      have others : ∀ d ∈ word, isBlank d = false := fun d member => ink d (.tail _ member)
      have here : isBlank c = false := ink c (.head _)
      rw [List.cons_append, trimEnd_cons, ih others, if_neg (by simp [here])]
      rfl

theorem trimStart_trimEnd (text : Text) : trimStart (trimEnd text) = trimEnd (trimStart text) := by
  induction text with
  | nil => rfl
  | cons c rest ih =>
      rw [trimEnd_cons]
      by_cases blank : isBlank c = true
      · have dropped (text : Text) : trimStart (c :: text) = trimStart text :=
          List.dropWhile_cons_of_pos blank
        rw [dropped, ← ih]
        split
        · rename_i nothing
          rw [nothing.1]
        · exact dropped _
      · have kept (text : Text) : trimStart (c :: text) = c :: text :=
          List.dropWhile_cons_of_neg blank
        rw [if_neg (by simp [blank]), kept, kept, trimEnd_cons, if_neg (by simp [blank])]

theorem mem_head?_of_trimEnd {text : Text} {c : Char} (head : c ∈ (trimEnd text).head?) :
    c ∈ text.head? := by
  cases text with
  | nil => exact head
  | cons d rest =>
      rw [trimEnd_cons] at head
      split at head
      · cases head
      · exact head

theorem isWordChar_toLower {c : Char} (word : isWordChar c = true) :
    isWordChar c.toLower = true := by
  have codes := isWordChar_iff.mp word
  apply isWordChar_iff.mpr
  rcases toLower_cases c with same | ⟨lower, upper, moved⟩
  · rw [same]
    exact codes
  · omega

theorem isWordChar_of_sameLetters {word other : Text} (same : sameLetters word other = true)
    (letters : ∀ c ∈ word, isWordChar c = true) : ∀ c ∈ other, isWordChar c = true := by
  intro c member
  have lowered : c.toLower ∈ lowerAscii other := List.mem_map_of_mem member
  rw [← beq_iff_eq.mp same] at lowered
  obtain ⟨d, among, small⟩ := List.mem_map.mp lowered
  apply isWordChar_of_toLower
  rw [← small]
  exact isWordChar_toLower (letters d among)

end Text

/-- White space at the end is not read, whatever is being read there. -/
theorem readArgumentsFrom_trimEnd (state : ArgumentState) (text : Text) :
    readArgumentsFrom state (Text.trimEnd text) = readArgumentsFrom state text := by
  induction text generalizing state with
  | nil => rfl
  | cons c rest ih =>
      rw [Text.trimEnd_cons]
      split
      · rename_i nothing
        obtain ⟨onlyBlank, blank⟩ := nothing
        have ends (state : ArgumentState) :
            readArgumentsFrom state rest = readArgumentsFrom state [] := by
          rw [← ih, onlyBlank]
        have noMark : c ≠ '"' ∧ c ≠ '\\' := by
          constructor <;> rintro rfl <;> revert blank <;> decide
        cases state <;> simp [readArgumentsFrom, blank, noMark, ends, Except.map]
      · cases state <;> simp only [readArgumentsFrom, ih]

theorem Keyword.ofWord?_congr {word other : Text} (same : Text.sameLetters word other = true) :
    ofWord? word = ofWord? other := by
  have letters : Text.lowerAscii word = Text.lowerAscii other := beq_iff_eq.mp same
  unfold ofWord? Text.sameLetters
  rw [letters]

/-- What may stand between a keyword and its arguments. -/
inductive Separator : Text → Prop where
  | blank (filled : text ≠ []) (blank : Text.AllBlank text) : Separator text
  | sign (before : Text.AllBlank first) (after : Text.AllBlank last) :
      Separator (first ++ '=' :: last)

theorem Separator.head {separator : Text} (separates : Separator separator) (text : Text) :
    ∀ c ∈ (separator ++ text).head?, Text.isBlank c = true ∨ c = '=' := by
  intro c head
  cases separates with
  | blank filled blank =>
      rw [List.head?_append_of_ne_nil _ filled] at head
      exact .inl (blank c (List.mem_of_head? head))
  | @sign first last before after =>
      cases first with
      | nil =>
          cases head
          exact .inr rfl
      | cons d first =>
          cases head
          exact .inl (before _ (.head _))

namespace Line

variable {word other rest separator before after : Text}

theorem behindSeparator_append (separates : Separator separator)
    (noSign : (Text.trimStart rest).head? ≠ some '=') :
    behindSeparator (separator ++ rest) = Text.trimStart rest := by
  cases separates with
  | blank filled blank =>
      have same := Text.trimStart_append_of_blank blank rest
      rw [behindSeparator_of_noSign (by rwa [same]), same]
  | @sign first last blankBefore blankAfter =>
      have sign : Text.trimStart (first ++ '=' :: last ++ rest) = '=' :: (last ++ rest) := by
        rw [List.append_assoc, Text.trimStart_append_of_blank blankBefore]
        rfl
      simp only [behindSeparator, sign]
      exact Text.trimStart_append_of_blank blankAfter rest

theorem behindSeparator_trimEnd (text : Text) :
    behindSeparator (Text.trimEnd text) = Text.trimEnd (behindSeparator text) := by
  by_cases sign : (Text.trimStart text).head? = some '='
  · obtain ⟨value, started⟩ := List.head?_eq_some_iff.mp sign
    have ended : Text.trimStart (Text.trimEnd text) = '=' :: Text.trimEnd value := by
      rw [Text.trimStart_trimEnd, started, Text.trimEnd_cons, if_neg (by simp [Text.isBlank])]
    simp only [behindSeparator, started, ended]
    exact Text.trimStart_trimEnd value
  · have noSign : (Text.trimStart (Text.trimEnd text)).head? ≠ some '=' := by
      rw [Text.trimStart_trimEnd]
      exact fun head => sign (Text.mem_head?_of_trimEnd head)
    rw [behindSeparator_of_noSign sign, behindSeparator_of_noSign noSign,
      Text.trimStart_trimEnd]

/-- A line that begins with a word is read by that word and by what stands behind it. -/
theorem read_word (filled : word ≠ []) (letters : ∀ c ∈ word, Text.isWordChar c = true)
    (apart : ∀ c ∈ rest.head?, Text.isBlank c = true ∨ c = '=')
    (blank : Text.AllBlank before) :
    read (before ++ (word ++ rest)) = ofParts word (behindSeparator rest) := by
  have ink : ∀ c ∈ word, Text.isBlank c = false :=
    fun c member => Text.isBlank_of_isWordChar (letters c member)
  have trimmed : Text.trim (before ++ (word ++ rest)) = word ++ Text.trimEnd rest := by
    obtain ⟨c, others, rfl⟩ := List.exists_cons_of_ne_nil filled
    have started : Text.trimStart (c :: others ++ rest) = c :: others ++ rest :=
      List.dropWhile_cons_of_neg (by simp [ink c])
    rw [Text.trim, Text.trimStart_append_of_blank blank, started, Text.trimEnd_append_of_ink ink]
  have apartStill : ∀ c ∈ (Text.trimEnd rest).head?, Text.isBlank c = true ∨ c = '=' :=
    fun c head => apart c (Text.mem_head?_of_trimEnd head)
  have cut : splitKeyword (Text.trim (before ++ (word ++ rest))) =
      some (word, Text.trimEnd (behindSeparator rest)) := by
    rw [trimmed, splitKeyword_eq filled letters apartStill, behindSeparator_trimEnd]
  have arguments : readArguments (Text.trimEnd (behindSeparator rest)) =
      readArguments (behindSeparator rest) := readArgumentsFrom_trimEnd .between _
  rw [read_eq_of_splitKeyword cut, ofParts, arguments, ofParts]

theorem read_separated (filled : word ≠ []) (letters : ∀ c ∈ word, Text.isWordChar c = true)
    (separates : Separator separator)
    (begins : ∀ c ∈ rest.head?, Text.isBlank c = false ∧ c ≠ '=')
    (first : Text.AllBlank before) (last : Text.AllBlank after) :
    read (before ++ (word ++ (separator ++ (rest ++ after)))) = ofParts word rest := by
  have noSign : (Text.trimStart (rest ++ after)).head? ≠ some '=' := by
    intro sign
    cases rest with
    | nil =>
        obtain ⟨value, same⟩ := List.head?_eq_some_iff.mp sign
        have member : '=' ∈ after := by
          have kept : '=' ∈ Text.trimStart after := by
            rw [show Text.trimStart after = '=' :: value from same]
            exact .head _
          exact (List.dropWhile_sublist _).mem kept
        exact absurd (last _ member) (by decide)
    | cons c rest =>
        obtain ⟨ink, noSign⟩ := begins c rfl
        rw [List.cons_append, Text.trimStart, List.dropWhile_cons_of_neg (by simp [ink])] at sign
        exact noSign (Option.some.inj sign)
  have arguments : readArguments (behindSeparator (separator ++ (rest ++ after))) =
      readArguments rest := by
    rw [behindSeparator_append separates noSign, readArguments_trimStart]
    calc readArguments (rest ++ after)
        = readArguments (Text.trimEnd (rest ++ after)) := (readArgumentsFrom_trimEnd ..).symm
      _ = readArguments (Text.trimEnd rest) := by rw [Text.trimEnd_append_blank rest last]
      _ = readArguments rest := readArgumentsFrom_trimEnd ..
  rw [read_word filled letters (separates.head _) first, ofParts, arguments, ofParts]

/-- A keyword in any case of its letters, set off by white space or by an equals sign with any white
space around it, makes the same line with what follows, whatever white space is around the line. -/
theorem read_eq_of_respelled {another start ending : Text} (filled : word ≠ [])
    (letters : ∀ c ∈ word, Text.isWordChar c = true)
    (same : Text.sameLetters word other = true)
    (separates : Separator separator) (separatesToo : Separator another)
    (begins : ∀ c ∈ rest.head?, Text.isBlank c = false ∧ c ≠ '=')
    (first : Text.AllBlank before) (last : Text.AllBlank after)
    (firstToo : Text.AllBlank start) (lastToo : Text.AllBlank ending) :
    read (before ++ (word ++ (separator ++ (rest ++ after)))) =
        read (start ++ (other ++ (another ++ (rest ++ ending)))) ∧
      read (before ++ (word ++ (separator ++ (rest ++ after)))) = ofParts word rest := by
  have small : Text.lowerAscii word = Text.lowerAscii other := beq_iff_eq.mp same
  have otherFilled : other ≠ [] := by
    rintro rfl
    exact filled (List.map_eq_nil_iff.mp small)
  have otherLetters := Text.isWordChar_of_sameLetters same letters
  have sameParts : ofParts other rest = ofParts word rest := by
    rw [ofParts, ofParts, Keyword.ofWord?_congr same, small]
  rw [read_separated filled letters separates begins first last,
    read_separated otherFilled otherLetters separatesToo begins firstToo lastToo, sameParts]
  exact ⟨rfl, rfl⟩

/-- The mark is missing that would end the argument. -/
theorem read_eq_of_respelled_unfinished :
    let rest := "\"bob =".toList
    Text.sameLetters "User".toList "uSER".toList = true ∧
      Separator "\u00a0".toList ∧ Separator " =\t".toList ∧
      read ([' '] ++ ("User".toList ++ ("\u00a0".toList ++ (rest ++ ['\r'])))) =
        read ([] ++ ("uSER".toList ++ (" =\t".toList ++ (rest ++ [])))) ∧
      read ([' '] ++ ("User".toList ++ ("\u00a0".toList ++ (rest ++ ['\r'])))) =
        .error .unfinishedQuote := by
  intro rest
  have letters : ∀ c ∈ "User".toList, Text.isWordChar c = true := List.all_eq_true.mp rfl
  have same : Text.sameLetters "User".toList "uSER".toList = true := rfl
  have blank : Text.AllBlank "\u00a0".toList := List.all_eq_true.mp rfl
  have space : Text.AllBlank [' '] := List.all_eq_true.mp rfl
  have tab : Text.AllBlank ['\t'] := List.all_eq_true.mp rfl
  have ending : Text.AllBlank ['\r'] := List.all_eq_true.mp rfl
  have separates : Separator "\u00a0".toList := .blank (by decide) blank
  have separatesToo : Separator " =\t".toList := .sign space tab
  have begins : ∀ c ∈ rest.head?, Text.isBlank c = false ∧ c ≠ '=' := by
    rintro c ⟨⟩
    decide
  obtain ⟨respelled, parts⟩ := read_eq_of_respelled (by decide) letters same separates separatesToo
    begins space ending Text.allBlank_nil Text.allBlank_nil
  exact ⟨same, separates, separatesToo, respelled, parts⟩

-- A second equals sign belongs to the first argument.
example : read "Port =22".toList = .ok (.directive .port ["22".toList]) ∧
    read "Port ==22".toList = .ok (.directive .port ["=22".toList]) := ⟨rfl, rfl⟩

end Line

end SshConfig
