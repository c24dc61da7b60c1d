import SshConfig.Proofs.ArgumentGrammar
import SshConfig.Proofs.Quotation
import Mathlib.Data.List.TakeWhile

namespace SshConfig

/-! Lines that begin with a keyword.

A keyword is read in any case of its letters, and the reader of arguments begins behind the white
space after it.  So every list of arguments can be put on a line: each goes between quotation marks,
with white space before it, and the line is read as the keyword with exactly these arguments.
-/

namespace Text

theorem isWordChar_of_toLower {c : Char} (small : isWordChar c.toLower = true) :
    isWordChar c = true := by
  by_cases capital : c.isUpper = true
  · unfold isWordChar Char.isAlphanum Char.isAlpha
    rw [capital]
    rfl
  · unfold Char.isUpper at capital
    have unchanged : c.toLower = c := dif_neg (by simpa using capital)
    rwa [unchanged] at small

theorem isWordChar_iff {c : Char} :
    isWordChar c = true ↔ 48 ≤ c.toNat ∧ c.toNat ≤ 57 ∨ 65 ≤ c.toNat ∧ c.toNat ≤ 90 ∨
      c.toNat = 95 ∨ 97 ≤ c.toNat ∧ c.toNat ≤ 122 := by
  have line : c = '_' ↔ c.toNat = 95 := by
    constructor
    · rintro rfl
      rfl
    · intro code
      exact Char.toNat_inj.mp code
  unfold isWordChar Char.isAlphanum Char.isAlpha Char.isUpper Char.isLower Char.isDigit
  simp only [Bool.or_eq_true, decide_eq_true_eq, beq_iff_eq, UInt32.le_iff_toNat_le,
    Bool.and_eq_true, ge_iff_le, line]
  have codes : ('A'.val.toNat = 65 ∧ 'Z'.val.toNat = 90) ∧ ('a'.val.toNat = 97 ∧
      'z'.val.toNat = 122) ∧ '0'.val.toNat = 48 ∧ '9'.val.toNat = 57 := by decide
  have same : c.val.toNat = c.toNat := rfl
  omega

theorem isBlank_of_isWordChar {c : Char} (word : isWordChar c = true) : isBlank c = false := by
  have codes := isWordChar_iff.mp word
  simp only [isBlank, Bool.or_eq_false_iff, Bool.and_eq_false_iff, decide_eq_false_iff_not,
    beq_eq_false_iff_ne]
  omega

theorem trimStart_append_of_blank {blanks : Text} (blank : AllBlank blanks) (text : Text) :
    trimStart (blanks ++ text) = trimStart text :=
  List.dropWhile_append_of_pos blank

theorem trim_surrounded {before core after : Text} (first : AllBlank before)
    (last : AllBlank after) (begins : ∀ c ∈ core.head?, isBlank c = false)
    (ends : ∀ c ∈ core.getLast?, isBlank c = false) :
    trim (before ++ (core ++ after)) = core := by
  have started : trimStart core = core := by
    cases core with
    | nil => rfl
    | cons c rest => exact List.dropWhile_cons_of_neg (by simp [begins c rfl])
  have finished : trimEnd core = core := by
    rcases core.eq_nil_or_concat with rfl | ⟨rest, c, rfl⟩
    · rfl
    · have ink : isBlank c = false := ends c (by simp)
      simp [trimEnd, ink]
  calc trim (before ++ (core ++ after))
      = trim (core ++ after) := by rw [trim, trimStart_append_of_blank first, ← trim]
    _ = trim core := trim_append_blank core last
    _ = core := by rw [trim, started, finished]

end Text

namespace Keyword

variable {keyword : Keyword} {word : Text}

theorem ofWord?_of_sameLetters (spelled : Text.sameLetters keyword.name.toList word = true) :
    ofWord? word = some keyword := by
  have letters : Text.lowerAscii word = Text.lowerAscii keyword.name.toList :=
    (beq_iff_eq.mp spelled).symm
  unfold ofWord? Text.sameLetters
  rw [letters]
  cases keyword <;> rfl

theorem isWordChar_of_sameLetters (spelled : Text.sameLetters keyword.name.toList word = true) :
    ∀ c ∈ word, Text.isWordChar c = true := by
  have letters : Text.lowerAscii keyword.name.toList = Text.lowerAscii word :=
    beq_iff_eq.mp spelled
  have small : (Text.lowerAscii keyword.name.toList).all Text.isWordChar = true := by
    cases keyword <;> rfl
  -- The lowercase letters of a name are letters of words, and so are their capitals.
  intro c member
  have lowered : c.toLower ∈ Text.lowerAscii word := List.mem_map_of_mem member
  rw [← letters] at lowered
  exact Text.isWordChar_of_toLower (List.all_eq_true.mp small _ lowered)

theorem ne_nil_of_sameLetters (spelled : Text.sameLetters keyword.name.toList word = true) :
    word ≠ [] := by
  rintro rfl
  revert spelled
  cases keyword <;> decide

end Keyword

namespace Line

/-- What stands behind the white space and the equals sign that may set off arguments. -/
def behindSeparator (text : Text) : Text :=
  match Text.trimStart text with
  | '=' :: value => Text.trimStart value
  | value => value

theorem behindSeparator_of_noSign {text : Text}
    (noSign : (Text.trimStart text).head? ≠ some '=') :
    behindSeparator text = Text.trimStart text := by
  unfold behindSeparator
  split
  · rename_i value sign
    exact absurd (by rw [sign]; rfl) noSign
  · rfl

theorem splitKeyword_eq {word rest : Text} (filled : word ≠ [])
    (letters : ∀ c ∈ word, Text.isWordChar c = true)
    (apart : ∀ c ∈ rest.head?, Text.isBlank c = true ∨ c = '=') :
    splitKeyword (word ++ rest) = some (word, behindSeparator rest) := by
  have taken : (word ++ rest).takeWhile Text.isWordChar = word ∧
      (word ++ rest).dropWhile Text.isWordChar = rest := by
    rw [List.takeWhile_append_of_pos letters, List.dropWhile_append_of_pos letters]
    cases rest with
    | nil => simp
    | cons c rest =>
        have noWord : ¬ Text.isWordChar c = true := by
          intro word
          have ink := Text.isBlank_of_isWordChar word
          rcases apart c rfl with blank | rfl
          · rw [blank] at ink
            cases ink
          · revert word
            decide
        simp [noWord]
  obtain ⟨d, others, rfl⟩ := List.exists_cons_of_ne_nil filled
  unfold splitKeyword
  rw [taken.1, taken.2]
  cases rest with
  | nil => rfl
  | cons c rest =>
      simp only
      split
      · rename_i value sign
        simp only [behindSeparator, sign]
      · rename_i noSign
        have blank : Text.isBlank c = true := by
          rcases apart c rfl with blank | rfl
          · exact blank
          · exact absurd rfl (noSign rest)
        have other : (Text.trimStart (c :: rest)).head? ≠ some '=' := by
          intro sign
          obtain ⟨value, same⟩ := List.head?_eq_some_iff.mp sign
          exact noSign value same
        rw [if_pos blank, behindSeparator_of_noSign other]

theorem splitKeyword_append {word rest : Text} (filled : word ≠ [])
    (letters : ∀ c ∈ word, Text.isWordChar c = true)
    (apart : ∀ c ∈ rest.head?, Text.isBlank c = true)
    (noSign : (Text.trimStart rest).head? ≠ some '=') :
    splitKeyword (word ++ rest) = some (word, Text.trimStart rest) := by
  rw [splitKeyword_eq filled letters fun c head => .inl (apart c head),
    behindSeparator_of_noSign noSign]

/-- The line that a keyword and the text of its arguments make. -/
def ofParts (word rest : Text) : Except LineFault Line :=
  match Keyword.ofWord? word with
  | none => .ok (.unknown (Text.lowerAscii word))
  | some keyword => (readArguments rest).map (.directive keyword)

theorem read_eq_of_splitKeyword {text word rest : Text}
    (cut : splitKeyword (Text.trim text) = some (word, rest)) : read text = ofParts word rest := by
  unfold read
  split
  · rename_i empty
    rw [empty] at cut
    cases cut
  · rename_i others comment
    rw [comment] at cut
    cases cut
  · rw [cut]
    rfl

theorem read_of_splitKeyword {text word rest : Text} {keyword : Keyword}
    (cut : splitKeyword (Text.trim text) = some (word, rest))
    (known : Keyword.ofWord? word = some keyword) :
    read text = (readArguments rest).map (.directive keyword) := by
  rw [read_eq_of_splitKeyword cut, ofParts, known]

end Line

/-- Arguments between quotation marks, each with white space before it. -/
def quotedArguments (items : List (Text × Text)) : Text :=
  items.flatMap fun item => item.1 ++ Text.quoted item.2

/-- Whether there is white space before each of the arguments, and nothing else. -/
def SetApart (items : List (Text × Text)) : Prop :=
  ∀ item ∈ items, item.1 ≠ [] ∧ Text.AllBlank item.1

theorem readArguments_append_of_blank {blanks : Text} (blank : Text.AllBlank blanks)
    (text : Text) : readArguments (blanks ++ text) = readArguments text := by
  induction blanks with
  | nil => rfl
  | cons c rest ih =>
      obtain ⟨space, others⟩ := Text.allBlank_cons.mp blank
      have dropped : readArguments (c :: (rest ++ text)) = readArguments (rest ++ text) := by
        simp [readArguments, readArgumentsFrom, space]
      exact dropped.trans (ih others)

theorem readArguments_trimStart (text : Text) :
    readArguments (Text.trimStart text) = readArguments text := by
  have blank : Text.AllBlank (text.takeWhile Text.isBlank) :=
    fun _ member => List.mem_takeWhile_imp member
  have parts : text.takeWhile Text.isBlank ++ Text.trimStart text = text :=
    List.takeWhile_append_dropWhile
  calc readArguments (Text.trimStart text)
      = readArguments (text.takeWhile Text.isBlank ++ Text.trimStart text) :=
        (readArguments_append_of_blank blank _).symm
    _ = readArguments text := by rw [parts]

theorem readArgumentsFrom_closed {rest : Text}
    (apart : ∀ c ∈ rest.head?, Text.isBlank c = true) :
    readArgumentsFrom .closed rest = readArguments rest := by
  cases rest with
  | nil => rfl
  | cons c rest =>
      have blank : Text.isBlank c = true := apart c rfl
      simp [readArguments, readArgumentsFrom, blank]

variable {items : List (Text × Text)}

theorem isBlank_head_quotedArguments (apart : SetApart items) :
    ∀ c ∈ (quotedArguments items).head?, Text.isBlank c = true := by
  cases items with
  | nil => simp [quotedArguments]
  | cons item rest =>
      obtain ⟨filled, blank⟩ := apart item List.mem_cons_self
      obtain ⟨d, gap, same⟩ := List.exists_cons_of_ne_nil filled
      have begins : (quotedArguments (item :: rest)).head? = some d := by
        simp [quotedArguments, same]
      intro c member
      rw [begins] at member
      cases member
      exact blank d (by simp [same])

theorem head_trimStart_quotedArguments (apart : SetApart items) :
    (Text.trimStart (quotedArguments items)).head? ≠ some '=' := by
  cases items with
  | nil => simp [quotedArguments, Text.trimStart]
  | cons item rest =>
      -- Behind the white space there is a quotation mark.
      have written : quotedArguments (item :: rest) =
          item.1 ++ ('"' :: (Text.escaped item.2 ++ ['"'] ++ quotedArguments rest)) := by
        simp [quotedArguments, Text.quoted]
      rw [written, Text.trimStart_append_of_blank (apart item List.mem_cons_self).2]
      simp [Text.trimStart, Text.isBlank]

theorem isBlank_last_quotedArguments {word : Text}
    (letters : ∀ c ∈ word, Text.isWordChar c = true) :
    ∀ c ∈ (word ++ quotedArguments items).getLast?, Text.isBlank c = false := by
  rcases items.eq_nil_or_concat with rfl | ⟨others, item, rfl⟩
  · intro c last
    have member : c ∈ word := List.mem_of_getLast? (by simpa [quotedArguments] using last)
    exact Text.isBlank_of_isWordChar (letters c member)
  · have written : word ++ quotedArguments (others ++ [item]) =
        (word ++ quotedArguments others ++ item.1 ++ ('"' :: Text.escaped item.2)) ++ ['"'] := by
      simp [quotedArguments, Text.quoted]
    intro c last
    rw [List.concat_eq_append, written, List.getLast?_concat] at last
    cases last
    rfl

theorem readArguments_quotedArguments (apart : SetApart items) :
    readArguments (quotedArguments items) = .ok (items.map Prod.snd) := by
  induction items with
  | nil => rfl
  | cons item rest ih =>
      have others : SetApart rest := fun other member => apart other (.tail _ member)
      have written : quotedArguments (item :: rest) =
          item.1 ++ (Text.quoted item.2 ++ quotedArguments rest) := by
        simp [quotedArguments]
      rw [written, readArguments_append_of_blank (apart item List.mem_cons_self).2,
        readArguments, readArgumentsFrom_quoted,
        readArgumentsFrom_closed (isBlank_head_quotedArguments others), ih others]
      rfl

/-- A keyword in any case of its letters and any arguments between quotation marks, with white
space between them and around the line, are read as that keyword and these arguments. -/
theorem Line.read_quotedArguments {keyword : Keyword} {word before after : Text}
    (spelled : Text.sameLetters keyword.name.toList word = true)
    (apart : SetApart items) (first : Text.AllBlank before) (last : Text.AllBlank after) :
    read (before ++ (word ++ quotedArguments items ++ after)) =
      .ok (.directive keyword (items.map Prod.snd)) := by
  have filled : word ≠ [] := Keyword.ne_nil_of_sameLetters spelled
  have letters : ∀ c ∈ word, Text.isWordChar c = true :=
    Keyword.isWordChar_of_sameLetters spelled
  have begins : ∀ c ∈ (word ++ quotedArguments items).head?, Text.isBlank c = false := by
    obtain ⟨d, others, same⟩ := List.exists_cons_of_ne_nil filled
    intro c head
    have letter : c ∈ word := by
      rw [same, List.cons_append, List.head?_cons] at head
      cases head
      simp [same]
    exact Text.isBlank_of_isWordChar (letters c letter)
  have trimmed : Text.trim (before ++ (word ++ quotedArguments items ++ after)) =
      word ++ quotedArguments items :=
    Text.trim_surrounded first last begins (isBlank_last_quotedArguments letters)
  have cut : splitKeyword (Text.trim (before ++ (word ++ quotedArguments items ++ after))) =
      some (word, Text.trimStart (quotedArguments items)) := by
    rw [trimmed]
    exact splitKeyword_append filled letters (isBlank_head_quotedArguments apart)
      (head_trimStart_quotedArguments apart)
  rw [read_of_splitKeyword cut (Keyword.ofWord?_of_sameLetters spelled), readArguments_trimStart,
    readArguments_quotedArguments apart]
  rfl

/-- A backslash before the last mark, a mark and an equals sign, a line feed, and no text at all. -/
theorem Line.read_quotedArguments_identityFile :
    let items : List (Text × Text) :=
      [("\t".toList, "\" =#\\".toList), ("\u00a0\n".toList, "\n".toList), (" ".toList, [])]
    Text.sameLetters Keyword.identityFile.name.toList "iDENTITYfILE".toList = true ∧
      SetApart items ∧
      quotedArguments items = "\t\"\\\" =#\\\\\"\u00a0\n\"\n\" \"\"".toList ∧
      read (" ".toList ++ ("iDENTITYfILE".toList ++ quotedArguments items ++ "\r".toList)) =
        .ok (.directive .identityFile ["\" =#\\".toList, "\n".toList, []]) := by
  intro items
  have spelled : Text.sameLetters Keyword.identityFile.name.toList "iDENTITYfILE".toList = true :=
    rfl
  have apart : SetApart items := by
    intro item member
    simp only [items, List.mem_cons, List.not_mem_nil, or_false] at member
    rcases member with rfl | rfl | rfl <;> exact ⟨List.cons_ne_nil _ _, List.all_eq_true.mp rfl⟩
  have first : Text.AllBlank " ".toList := List.all_eq_true.mp rfl
  have last : Text.AllBlank "\r".toList := List.all_eq_true.mp rfl
  exact ⟨spelled, apart, rfl, read_quotedArguments spelled apart first last⟩

end SshConfig
