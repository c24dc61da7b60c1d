import SshConfig.Proofs.ConditionGrammar
import SshConfig.Proofs.KeywordLine
import SshConfig.Proofs.WellFormed

namespace SshConfig

/-! Headers as text.

A header is written as the line that opens a block with it, without quotation marks.  So it can be
read back only if each of its arguments is a word, which is neither empty nor holds white space or a
quotation mark.  An equals sign at the beginning of the first argument would be taken for the one
that may stand behind a keyword.
-/

/-- Whether a text is read as one argument where it stands without quotation marks. -/
def IsWord (text : Text) : Prop :=
  text ≠ [] ∧ ∀ c ∈ text, IsBare c

def spaced (words : List Text) : Text :=
  words.flatMap fun word => ' ' :: word

theorem spaced_eq_join {words : List Text} (filled : words ≠ []) :
    spaced words = ' ' :: Text.join [' '] words := by
  induction words with
  | nil => exact absurd rfl filled
  | cons word rest ih =>
      cases rest with
      | nil => simp [spaced, Text.join]
      | cons next others =>
          have later : spaced (word :: next :: others) =
              ' ' :: word ++ spaced (next :: others) := rfl
          rw [later, ih (List.cons_ne_nil next others)]
          simp [Text.join]

variable {word : Text} {words : List Text}

theorem argumentTokens_spaced (first : IsWord word) (plain : ∀ other ∈ words, IsWord other) :
    ArgumentTokens (word ++ spaced words) (word :: words) := by
  induction words generalizing word with
  | nil =>
      rw [spaced, List.flatMap_nil, List.append_nil]
      exact .one (.bare first.1 first.2)
  | cons next others ih =>
      obtain ⟨second, later⟩ := List.forall_mem_cons.mp plain
      have space : Text.AllBlank [' '] := List.all_eq_true.mp rfl
      have tokens : ArgumentTokens (word ++ ([' '] ++ (next ++ spaced others)))
          (word :: next :: others) :=
        .more (.bare first.1 first.2) (List.cons_ne_nil _ _) space (ih second later)
      exact tokens

theorem readArguments_spaced (plain : ∀ word ∈ words, IsWord word) :
    readArguments (spaced words) = .ok words := by
  have spelled : Spells (spaced words) words := by
    cases words with
    | nil => exact .nothing Text.allBlank_nil
    | cons word rest =>
        obtain ⟨first, later⟩ := List.forall_mem_cons.mp plain
        have space : Text.AllBlank [' '] := List.all_eq_true.mp rfl
        have tokens := Spells.tokens space (argumentTokens_spaced first later) Text.allBlank_nil
        simpa [spaced] using tokens
  exact (readArgumentsFrom_eq_ok .between _ _).mpr spelled

theorem isBlank_last_spaced {start : Text} (plain : ∀ word ∈ words, IsWord word)
    (ends : ∀ c ∈ start.getLast?, Text.isBlank c = false) :
    ∀ c ∈ (start ++ spaced words).getLast?, Text.isBlank c = false := by
  rcases words.eq_nil_or_concat with rfl | ⟨others, word, rfl⟩
  · simpa [spaced] using ends
  · obtain ⟨filled, bare⟩ := plain word (by simp)
    have written : start ++ spaced (others.concat word) =
        (start ++ spaced others ++ [' ']) ++ word := by
      simp [spaced]
    intro c last
    rw [written, List.getLast?_append_of_ne_nil _ filled] at last
    exact (bare c (List.mem_of_getLast? last)).1

theorem head_trimStart_spaced (plain : ∀ word ∈ words, IsWord word)
    (noSign : ∀ word ∈ words.head?, word.head? ≠ some '=') :
    (Text.trimStart (spaced words)).head? ≠ some '=' := by
  cases words with
  | nil => simp [spaced, Text.trimStart]
  | cons word rest =>
      obtain ⟨filled, bare⟩ := plain word List.mem_cons_self
      obtain ⟨c, others, rfl⟩ := List.exists_cons_of_ne_nil filled
      have ink : Text.isBlank c = false := (bare c List.mem_cons_self).1
      have space : Text.isBlank ' ' = true := rfl
      simpa [spaced, Text.trimStart, ink, space] using noSign _ rfl

theorem trim_spaced {start after : Text} (filled : start ≠ [])
    (inked : ∀ c ∈ start, Text.isBlank c = false) (plain : ∀ word ∈ words, IsWord word)
    (last : Text.AllBlank after) :
    Text.trim (start ++ spaced words ++ after) = start ++ spaced words := by
  have begins : ∀ c ∈ (start ++ spaced words).head?, Text.isBlank c = false := by
    intro c head
    rw [List.head?_append_of_ne_nil _ filled] at head
    exact inked c (List.mem_of_head? head)
  have ends : ∀ c ∈ (start ++ spaced words).getLast?, Text.isBlank c = false :=
    isBlank_last_spaced plain fun c member => inked c (List.mem_of_getLast? member)
  exact Text.trim_surrounded Text.allBlank_nil last begins ends

/-- A keyword in its usual spelling and words behind it are read as the keyword with these words. -/
theorem Line.read_spaced (keyword : Keyword) {after : Text} (plain : ∀ word ∈ words, IsWord word)
    (noSign : ∀ word ∈ words.head?, word.head? ≠ some '=') (last : Text.AllBlank after) :
    read (keyword.name.toList ++ spaced words ++ after) = .ok (.directive keyword words) := by
  have spelled : Text.sameLetters keyword.name.toList keyword.name.toList = true :=
    beq_iff_eq.mpr rfl
  have letters := Keyword.isWordChar_of_sameLetters spelled
  have filled := Keyword.ne_nil_of_sameLetters spelled
  have inked : ∀ c ∈ keyword.name.toList, Text.isBlank c = false :=
    fun c member => Text.isBlank_of_isWordChar (letters c member)
  have apart : ∀ c ∈ (spaced words).head?, Text.isBlank c = true := by
    cases words with
    | nil => simp [spaced]
    | cons word rest =>
        rintro c ⟨⟩
        rfl
  have cut : splitKeyword (Text.trim (keyword.name.toList ++ spaced words ++ after)) =
      some (keyword.name.toList, Text.trimStart (spaced words)) := by
    rw [trim_spaced filled inked plain last]
    exact splitKeyword_append filled letters apart (head_trimStart_spaced plain noSign)
  rw [read_of_splitKeyword cut (Keyword.ofWord?_of_sameLetters spelled), readArguments_trimStart,
    readArguments_spaced plain]
  rfl

namespace ConditionKind

variable (kind : ConditionKind) (negated : Bool)

theorem isWord_name : IsWord (writeNegation negated kind.name.toList) := by
  have bare : (writeNegation negated kind.name.toList).all
      (fun c => !Text.isBlank c && c != '"') = true := by
    cases kind <;> cases negated <;> rfl
  refine ⟨by cases kind <;> cases negated <;> simp [writeNegation, name], fun c member => ?_⟩
  simpa [IsBare] using List.all_eq_true.mp bare c member

theorem noSign_name : (writeNegation negated kind.name.toList).head? ≠ some '=' := by
  cases kind <;> cases negated <;> simp [writeNegation, name]

end ConditionKind

theorem HostPattern.ofText_text {pattern : HostPattern}
    (unmarked : pattern.negated = false → pattern.pattern.head? ≠ some '!') :
    ofText pattern.text = pattern := by
  rw [ofText, text, readNegation_writeNegation unmarked]

namespace Condition

theorem spaced_arguments (condition : Condition) :
    spaced (condition.arguments condition.kind.name.toList) = ' ' :: condition.text := by
  obtain ⟨kind, negated, value⟩ := condition
  cases value <;> simp [spaced, arguments, text]

theorem written_arguments {conditions : List Condition}
    (valued : ∀ condition ∈ conditions, condition.value.isSome = condition.kind.takesValue) :
    Written conditions
      (conditions.flatMap fun condition => condition.arguments condition.kind.name.toList) := by
  induction conditions with
  | nil => exact .nothing
  | cons condition rest ih =>
      obtain ⟨first, later⟩ := List.forall_mem_cons.mp valued
      exact .more (beq_iff_eq.mpr rfl) first (ih later)

end Condition

namespace Header

def keyword : Header → Keyword
  | .host _ => .host
  | .matching _ => .matching

def arguments : Header → List Text
  | .host patterns => patterns.map HostPattern.text
  | .matching conditions =>
      conditions.flatMap fun condition => condition.arguments condition.kind.name.toList

/-- Whether the arguments of a header are words, of which the first of a `Host` line does not begin
with an equals sign. -/
def IsPlain : Header → Prop
  | .host patterns =>
      (∀ pattern ∈ patterns, IsWord pattern.text) ∧
        ∀ pattern ∈ patterns.head?, pattern.text.head? ≠ some '='
  | .matching conditions =>
      ∀ condition ∈ conditions, ∀ value ∈ condition.value, IsWord value

variable {header : Header}

theorem text_eq_spaced (header : Header) :
    ∃ after, Text.AllBlank after ∧
      header.text = header.keyword.name.toList ++ spaced header.arguments ++ after := by
  have written (name : Text) (texts : List Text) : ∃ after, Text.AllBlank after ∧
      name ++ ' ' :: Text.join [' '] texts = name ++ spaced texts ++ after := by
    by_cases empty : texts = []
    · -- The space behind the keyword is written although nothing follows.
      subst empty
      exact ⟨[' '], List.all_eq_true.mp rfl, by simp [Text.join, spaced]⟩
    · exact ⟨[], Text.allBlank_nil, by rw [spaced_eq_join empty, List.append_nil]⟩
  cases header with
  | host patterns => exact written "Host".toList (patterns.map HostPattern.text)
  | matching conditions =>
      have together : spaced (arguments (.matching conditions)) =
          spaced (conditions.map Condition.text) := by
        simp only [arguments, spaced, List.flatMap_assoc, List.flatMap_map]
        exact List.flatMap_congr fun condition _ => condition.spaced_arguments
      rw [together]
      exact written "Match".toList (conditions.map Condition.text)

theorem read_arguments (wellFormed : header.WellFormed) :
    Directive.read header.keyword header.arguments = .ok (.header header) := by
  refine Directive.read_eq_ok.mpr ?_
  cases header with
  | host patterns =>
      have again : (patterns.map HostPattern.text).map HostPattern.ofText = patterns := by
        rw [List.map_map]
        refine (List.map_congr_left fun pattern member => ?_).trans patterns.map_id
        exact HostPattern.ofText_text (wellFormed pattern member)
      have reads : Directive.Reads .host (patterns.map HostPattern.text) _ := .host
      rwa [again] at reads
  | matching conditions =>
      exact .matching (Condition.readAll_eq_ok.mpr (Condition.written_arguments wellFormed))

theorem isWord_arguments (plain : header.IsPlain) : ∀ word ∈ header.arguments, IsWord word := by
  cases header with
  | host patterns => exact List.forall_mem_map.mpr plain.1
  | matching conditions =>
      intro word member
      obtain ⟨condition, inside, written⟩ := List.mem_flatMap.mp member
      rcases List.mem_cons.mp written with rfl | value
      · exact condition.kind.isWord_name condition.negated
      · exact plain condition inside word (Option.mem_toList.mp value)

theorem noSign_arguments (plain : header.IsPlain) :
    ∀ word ∈ header.arguments.head?, word.head? ≠ some '=' := by
  cases header with
  | host patterns =>
      intro word first
      rw [arguments, List.head?_map] at first
      obtain ⟨pattern, head, rfl⟩ := Option.map_eq_some_iff.mp first
      exact plain.2 pattern head
  | matching conditions =>
      cases conditions with
      | nil => simp [arguments]
      | cons condition rest =>
          rintro word ⟨⟩
          exact condition.kind.noSign_name condition.negated

theorem wellFormed_of_read {keyword : Keyword} {given : List Text}
    (opened : Directive.read keyword given = .ok (.header header)) :
    header.keyword = keyword ∧ header.WellFormed := by
  have reads := Directive.read_eq_ok.mp opened
  refine ⟨?_, reads.header_wellFormed⟩
  cases reads <;> rfl

/-- The text of a header that a keyword opened is a line with this keyword, and its arguments open a
block with the same header again, in any session. -/
theorem dispatch_text {keyword : Keyword} {given : List Text}
    (opened : Directive.read keyword given = .ok (.header header)) (plain : header.IsPlain) :
    ∃ again, Line.read header.text = .ok (.directive keyword again) ∧
      ∀ (session : Session) line, ∃ draft,
        session.draft.GainsBlock header ⟨session.place.source, line⟩ draft ∧
        session.dispatch keyword again line = ({ session with draft }, none) := by
  obtain ⟨rfl, wellFormed⟩ := wellFormed_of_read opened
  obtain ⟨after, blank, written⟩ := header.text_eq_spaced
  refine ⟨header.arguments, ?_, fun session line => ?_⟩
  · rw [written]
    exact Line.read_spaced header.keyword (isWord_arguments plain) (noSign_arguments plain) blank
  · refine ⟨_, Draft.gainsBlock_iff.mpr rfl, ?_⟩
    rw [Session.dispatch, dispatch, read_arguments wellFormed]
    rfl

/-- The mark of a negated pattern is in front of its equals sign, and other patterns than the first
may begin with one. -/
theorem dispatch_text_host :
    let given := ["!=b".toList, "=\\".toList, "#*".toList]
    let header : Header :=
      .host [⟨"=b".toList, true⟩, ⟨"=\\".toList, false⟩, ⟨"#*".toList, false⟩]
    Directive.read .host given = .ok (.header header) ∧ header.IsPlain ∧
      header.text = "Host !=b =\\ #*".toList ∧
      ∃ again, Line.read header.text = .ok (.directive .host again) ∧
        ∀ (session : Session) line, ∃ draft,
          session.draft.GainsBlock header ⟨session.place.source, line⟩ draft ∧
          session.dispatch .host again line = ({ session with draft }, none) := by
  intro given header
  have opened : Directive.read .host given = .ok (.header header) := rfl
  have bare : given.all (fun word => !word.isEmpty && word.all fun c =>
      !Text.isBlank c && c != '"') = true := rfl
  have plain : header.IsPlain := by
    refine ⟨List.forall_mem_map.mp fun word member => ?_, by rintro pattern ⟨⟩; decide⟩
    simpa [IsWord, IsBare] using List.all_eq_true.mp bare word member
  exact ⟨opened, plain, rfl, dispatch_text opened plain⟩

end Header

end SshConfig
