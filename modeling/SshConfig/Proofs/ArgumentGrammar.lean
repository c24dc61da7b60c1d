import SshConfig.Line
import Mathlib.Data.List.Basic

namespace SshConfig

/-! The grammar of arguments.

A text of arguments is a sequence of tokens that are set off by white space.  The reader goes
through it one character at a time with a state.  For every state it is said here what the text
may still be and which arguments come of it, so that the reader and the grammar are compared one
character at a time too.
-/

def Text.AllBlank (text : Text) : Prop :=
  ∀ c ∈ text, Text.isBlank c = true

/-- Whether a character can belong to an argument without quotes. -/
def IsBare (c : Char) : Prop :=
  Text.isBlank c = false ∧ c ≠ '"'

/-- What stands between some place within a quoted argument and its end, the mark at the end
included, and what it denotes. -/
inductive QuotedRest : Text → Text → Prop where
  | close : QuotedRest ['"'] []
  | mark (rest : QuotedRest text word) : QuotedRest ('\\' :: '"' :: text) ('"' :: word)
  | backslash (rest : QuotedRest text word) : QuotedRest ('\\' :: '\\' :: text) ('\\' :: word)
  /-- A backslash with neither a mark nor a backslash after it. -/
  | loneBackslash (noMark : text.head? ≠ some '"') (noBackslash : text.head? ≠ some '\\')
      (rest : QuotedRest text word) : QuotedRest ('\\' :: text) ('\\' :: word)
  | plain (noMark : c ≠ '"') (noBackslash : c ≠ '\\') (rest : QuotedRest text word) :
      QuotedRest (c :: text) (c :: word)

/-- A token, and the argument that it denotes. -/
inductive ArgumentToken : Text → Text → Prop where
  | bare (filled : word ≠ []) (bare : ∀ c ∈ word, IsBare c) : ArgumentToken word word
  | quoted (rest : QuotedRest text word) : ArgumentToken ('"' :: text) word

/-- Tokens with white space between neighbours, and the arguments that they denote. -/
inductive ArgumentTokens : Text → List Text → Prop where
  | one (token : ArgumentToken text word) : ArgumentTokens text [word]
  | more (token : ArgumentToken text word) (filled : gap ≠ []) (blank : Text.AllBlank gap)
      (others : ArgumentTokens rest words) : ArgumentTokens (text ++ (gap ++ rest)) (word :: words)

/-- Whether a text is written as the arguments: no tokens or some, and any white space before
and after them. -/
inductive Spells : Text → List Text → Prop where
  | nothing (blank : Text.AllBlank text) : Spells text []
  | tokens (before : Text.AllBlank first) (tokens : ArgumentTokens middle arguments)
      (after : Text.AllBlank last) : Spells (first ++ (middle ++ last)) arguments

theorem Text.allBlank_nil : Text.AllBlank [] := by
  simp [Text.AllBlank]

theorem Text.allBlank_cons {c : Char} {rest : Text} :
    Text.AllBlank (c :: rest) ↔ Text.isBlank c = true ∧ Text.AllBlank rest := by
  simp [Text.AllBlank]

theorem isBlank_mark : Text.isBlank '"' = false := rfl

theorem ArgumentToken.starts {text word : Text} (token : ArgumentToken text word) :
    ∃ c rest, text = c :: rest ∧ Text.isBlank c = false := by
  cases token with
  | bare filled bare =>
      obtain ⟨c, rest, rfl⟩ := List.exists_cons_of_ne_nil filled
      exact ⟨c, rest, rfl, (bare c List.mem_cons_self).1⟩
  | @quoted text word rest => exact ⟨'"', text, rfl, isBlank_mark⟩

theorem ArgumentTokens.starts {text : Text} {words : List Text}
    (tokens : ArgumentTokens text words) :
    ∃ c rest, text = c :: rest ∧ Text.isBlank c = false := by
  cases tokens with
  | one token => exact token.starts
  | @more first word gap others words token filled blank rest =>
      obtain ⟨c, remaining, rfl, ink⟩ := token.starts
      exact ⟨c, remaining ++ (gap ++ others), rfl, ink⟩

theorem spells_nil {arguments : List Text} : Spells [] arguments ↔ arguments = [] := by
  constructor
  · intro spelled
    generalize empty : ([] : Text) = text at spelled
    cases spelled with
    | nothing blank => rfl
    | tokens before tokens after =>
        obtain ⟨c, rest, rfl, -⟩ := tokens.starts
        simp at empty
  · rintro rfl
    exact .nothing Text.allBlank_nil

theorem spells_blank_cons {c : Char} {rest : Text} {arguments : List Text}
    (blank : Text.isBlank c = true) : Spells (c :: rest) arguments ↔ Spells rest arguments := by
  constructor
  · intro spelled
    generalize whole : c :: rest = text at spelled
    cases spelled with
    | nothing all =>
        subst whole
        exact .nothing (Text.allBlank_cons.mp all).2
    | @tokens first middle _ last before tokens after =>
        cases first with
        | nil =>
            obtain ⟨d, remaining, rfl, ink⟩ := tokens.starts
            cases whole
            rw [blank] at ink
            cases ink
        | cons d first =>
            cases whole
            exact .tokens (Text.allBlank_cons.mp before).2 tokens after
  · intro spelled
    cases spelled with
    | nothing all => exact .nothing (Text.allBlank_cons.mpr ⟨blank, all⟩)
    | @tokens first middle _ last before tokens after =>
        have earlier : Text.AllBlank (c :: first) := Text.allBlank_cons.mpr ⟨blank, before⟩
        exact .tokens earlier tokens after

/-- What may follow a token: nothing, or white space and then what any text may be. -/
def Follows (text : Text) (arguments : List Text) : Prop :=
  (∀ c ∈ text.head?, Text.isBlank c = true) ∧ Spells text arguments

theorem follows_nil {arguments : List Text} : Follows [] arguments ↔ arguments = [] := by
  simp [Follows, spells_nil]

theorem follows_cons {c : Char} {rest : Text} {arguments : List Text} :
    Follows (c :: rest) arguments ↔ Text.isBlank c = true ∧ Spells rest arguments := by
  simp only [Follows, List.head?_cons, Option.mem_some_iff, forall_eq']
  exact and_congr_right fun blank => spells_blank_cons blank

theorem follows_of_blank {text : Text} (blank : Text.AllBlank text) : Follows text [] := by
  cases text with
  | nil => exact follows_nil.mpr rfl
  | cons c rest =>
      have parts := Text.allBlank_cons.mp blank
      exact follows_cons.mpr ⟨parts.1, .nothing parts.2⟩

/-- A text that does not begin with white space begins with a token. -/
theorem spells_iff_token {c : Char} {rest : Text} {arguments : List Text}
    (ink : Text.isBlank c = false) :
    Spells (c :: rest) arguments ↔
      ∃ token word after later, c :: rest = token ++ after ∧ ArgumentToken token word ∧
        Follows after later ∧ arguments = word :: later := by
  have notBlank : ¬ Text.isBlank c = true := by simp [ink]
  constructor
  · intro spelled
    generalize whole : c :: rest = text at spelled
    cases spelled with
    | nothing all =>
        subst whole
        exact absurd (Text.allBlank_cons.mp all).1 notBlank
    | @tokens first middle _ last before tokens after =>
        cases first with
        | cons d first =>
            cases whole
            exact absurd (Text.allBlank_cons.mp before).1 notBlank
        | nil =>
            cases tokens with
            | one token => exact ⟨_, _, last, [], rfl, token, follows_of_blank after, rfl⟩
            | @more text word gap others words token filled blank rest =>
                obtain ⟨d, gap, rfl⟩ := List.exists_cons_of_ne_nil filled
                have parts := Text.allBlank_cons.mp blank
                have later : Spells (gap ++ (others ++ last)) words := .tokens parts.2 rest after
                refine ⟨text, word, d :: (gap ++ (others ++ last)), words, ?_, token,
                  follows_cons.mpr ⟨parts.1, later⟩, rfl⟩
                simp
  · rintro ⟨token, word, after, later, same, begins, ⟨gap, spelled⟩, rfl⟩
    rw [same]
    cases spelled with
    | nothing blank =>
        have spelled := Spells.tokens Text.allBlank_nil (.one begins) blank
        exact spelled
    | @tokens first middle _ last before tokens end_ =>
        have filled : first ≠ [] := by
          rintro rfl
          obtain ⟨d, remaining, rfl, ink⟩ := tokens.starts
          have blank : Text.isBlank d = true := gap d rfl
          rw [blank] at ink
          cases ink
        have joined : ArgumentTokens (token ++ (first ++ middle)) (word :: later) :=
          .more begins filled before tokens
        have spelled := Spells.tokens Text.allBlank_nil joined end_
        simpa using spelled

/-- What a text may be that is read on in a state, and the arguments that come of it. -/
def ReadsOn : ArgumentState → Text → List Text → Prop
  | .between, text, arguments => Spells text arguments
  | .bare word, text, arguments =>
      ∃ more after later, text = more ++ after ∧ (∀ c ∈ more, IsBare c) ∧
        Follows after later ∧ arguments = (word ++ more) :: later
  | .quoted word, text, arguments =>
      ∃ body more after later, text = body ++ after ∧ QuotedRest body more ∧
        Follows after later ∧ arguments = (word ++ more) :: later
  | .escaped word, text, arguments =>
      ∃ body more after later, '\\' :: text = body ++ after ∧ QuotedRest body more ∧
        Follows after later ∧ arguments = (word ++ more) :: later
  | .closed, text, arguments => Follows text arguments

variable {c : Char} {word rest : Text} {arguments : List Text}

theorem readsOn_between_mark :
    Spells ('"' :: rest) arguments ↔ ReadsOn (.quoted []) rest arguments := by
  rw [spells_iff_token isBlank_mark]
  constructor
  · rintro ⟨token, word, after, later, same, begins, follows, rfl⟩
    cases begins with
    | bare filled bare =>
        obtain ⟨d, remaining, rfl⟩ := List.exists_cons_of_ne_nil filled
        cases same
        exact absurd rfl (bare '"' List.mem_cons_self).2
    | @quoted body word quoted =>
        cases same
        exact ⟨body, word, after, later, rfl, quoted, follows, rfl⟩
  · rintro ⟨body, more, after, later, rfl, quoted, follows, rfl⟩
    exact ⟨'"' :: body, more, after, later, rfl, .quoted quoted, follows, rfl⟩

theorem readsOn_between_bare (bare : IsBare c) :
    Spells (c :: rest) arguments ↔ ReadsOn (.bare [c]) rest arguments := by
  rw [spells_iff_token bare.1]
  constructor
  · rintro ⟨token, word, after, later, same, begins, follows, rfl⟩
    cases begins with
    | bare filled all =>
        obtain ⟨d, remaining, rfl⟩ := List.exists_cons_of_ne_nil filled
        cases same
        have others : ∀ e ∈ remaining, IsBare e := fun e member => all e (.tail _ member)
        exact ⟨remaining, after, later, rfl, others, follows, rfl⟩
    | quoted quoted =>
        cases same
        exact absurd rfl bare.2
  · rintro ⟨more, after, later, rfl, all, follows, rfl⟩
    have everywhere : ∀ e ∈ c :: more, IsBare e := by
      intro e member
      rcases List.mem_cons.mp member with rfl | member
      · exact bare
      · exact all e member
    exact ⟨c :: more, c :: more, after, later, rfl, .bare (List.cons_ne_nil c more) everywhere,
      follows, rfl⟩

theorem readsOn_bare_nil : ReadsOn (.bare word) [] arguments ↔ arguments = [word] := by
  constructor
  · rintro ⟨more, after, later, empty, -, follows, rfl⟩
    obtain ⟨rfl, rfl⟩ := List.append_eq_nil_iff.mp empty.symm
    rw [follows_nil.mp follows, List.append_nil]
  · rintro rfl
    exact ⟨[], [], [], rfl, by simp, follows_nil.mpr rfl, by simp⟩

theorem readsOn_bare_bare (bare : IsBare c) :
    ReadsOn (.bare word) (c :: rest) arguments ↔
      ReadsOn (.bare (word ++ [c])) rest arguments := by
  constructor
  · rintro ⟨more, after, later, same, all, follows, rfl⟩
    cases more with
    | nil =>
        cases same
        have blank := (follows_cons.mp follows).1
        rw [bare.1] at blank
        cases blank
    | cons d more =>
        cases same
        have others : ∀ e ∈ more, IsBare e := fun e member => all e (.tail _ member)
        exact ⟨more, after, later, rfl, others, follows, by simp⟩
  · rintro ⟨more, after, later, rfl, all, follows, rfl⟩
    refine ⟨c :: more, after, later, rfl, ?_, follows, by simp⟩
    intro e member
    rcases List.mem_cons.mp member with rfl | member
    · exact bare
    · exact all e member

/-- What cannot belong to an argument without quotes has to be what may follow it. -/
theorem readsOn_bare_end (noBare : ¬ IsBare c) :
    ReadsOn (.bare word) (c :: rest) arguments ↔
      ∃ later, Follows (c :: rest) later ∧ arguments = word :: later := by
  constructor
  · rintro ⟨more, after, later, same, all, follows, rfl⟩
    cases more with
    | cons d more =>
        cases same
        exact absurd (all c List.mem_cons_self) noBare
    | nil =>
        cases same
        exact ⟨later, follows, by simp⟩
  · rintro ⟨later, follows, rfl⟩
    exact ⟨[], c :: rest, later, rfl, by simp, follows, by simp⟩

theorem not_readsOn_quoted_nil : ¬ ReadsOn (.quoted word) [] arguments := by
  rintro ⟨body, more, after, later, empty, quoted, -⟩
  obtain ⟨rfl, -⟩ := List.append_eq_nil_iff.mp empty.symm
  cases quoted

theorem readsOn_quoted_mark :
    ReadsOn (.quoted word) ('"' :: rest) arguments ↔
      ∃ later, Follows rest later ∧ arguments = word :: later := by
  constructor
  · rintro ⟨body, more, after, later, same, quoted, follows, rfl⟩
    cases quoted with
    | close =>
        cases same
        exact ⟨later, follows, by simp⟩
    | mark | backslash | loneBackslash => cases same
    | plain noMark =>
        cases same
        exact absurd rfl noMark
  · rintro ⟨later, follows, rfl⟩
    exact ⟨['"'], [], rest, later, rfl, .close, follows, by simp⟩

theorem readsOn_quoted_plain (noMark : c ≠ '"') (noBackslash : c ≠ '\\') :
    ReadsOn (.quoted word) (c :: rest) arguments ↔
      ReadsOn (.quoted (word ++ [c])) rest arguments := by
  constructor
  · rintro ⟨body, more, after, later, same, quoted, follows, rfl⟩
    cases quoted with
    | close =>
        cases same
        exact absurd rfl noMark
    | mark | backslash | loneBackslash =>
        cases same
        exact absurd rfl noBackslash
    | @plain d text more _ _ quoted =>
        cases same
        exact ⟨text, more, after, later, rfl, quoted, follows, by simp⟩
  · rintro ⟨body, more, after, later, rfl, quoted, follows, rfl⟩
    exact ⟨c :: body, c :: more, after, later, rfl, .plain noMark noBackslash quoted, follows,
      by simp⟩

theorem not_readsOn_escaped_nil : ¬ ReadsOn (.escaped word) [] arguments := by
  rintro ⟨body, more, after, later, same, quoted, -⟩
  cases quoted with
  | close | mark | backslash => cases same
  | loneBackslash _ _ quoted | plain _ _ quoted =>
      obtain ⟨rfl, -⟩ := List.append_eq_nil_iff.mp (List.cons.inj same).2.symm
      cases quoted

theorem readsOn_escaped_special (special : c = '"' ∨ c = '\\') :
    ReadsOn (.escaped word) (c :: rest) arguments ↔
      ReadsOn (.quoted (word ++ [c])) rest arguments := by
  constructor
  · rintro ⟨body, more, after, later, same, quoted, follows, rfl⟩
    cases quoted with
    | close => cases same
    | @mark text more quoted | @backslash text more quoted =>
        cases same
        exact ⟨text, more, after, later, rfl, quoted, follows, by simp⟩
    | @loneBackslash text more noMark noBackslash quoted =>
        obtain ⟨d, text, rfl⟩ : ∃ d remaining, text = d :: remaining := by
          cases quoted <;> exact ⟨_, _, rfl⟩
        cases same
        rcases special with rfl | rfl
        · exact absurd rfl noMark
        · exact absurd rfl noBackslash
    | plain _ noOther => exact absurd (List.cons.inj same).1.symm noOther
  · rintro ⟨body, more, after, later, rfl, quoted, follows, rfl⟩
    rcases special with rfl | rfl
    · exact ⟨_, _, after, later, rfl, .mark quoted, follows, by simp⟩
    · exact ⟨_, _, after, later, rfl, .backslash quoted, follows, by simp⟩

theorem readsOn_escaped_plain (noMark : c ≠ '"') (noBackslash : c ≠ '\\') :
    ReadsOn (.escaped word) (c :: rest) arguments ↔
      ReadsOn (.quoted (word ++ ['\\', c])) rest arguments := by
  have plain : ReadsOn (.quoted (word ++ ['\\'] ++ [c])) rest arguments ↔
      ReadsOn (.quoted (word ++ ['\\'])) (c :: rest) arguments :=
    (readsOn_quoted_plain noMark noBackslash).symm
  have words : word ++ ['\\', c] = word ++ ['\\'] ++ [c] := by simp
  rw [words, plain]
  constructor
  · rintro ⟨body, more, after, later, same, quoted, follows, rfl⟩
    cases quoted with
    | close => cases same
    | mark =>
        cases same
        exact absurd rfl noMark
    | backslash =>
        cases same
        exact absurd rfl noBackslash
    | @loneBackslash text more _ _ quoted =>
        exact ⟨text, more, after, later, (List.cons.inj same).2, quoted, follows, by simp⟩
    | plain _ noOther => exact absurd (List.cons.inj same).1.symm noOther
  · rintro ⟨body, more, after, later, same, quoted, follows, rfl⟩
    obtain ⟨d, text, rfl⟩ : ∃ d remaining, body = d :: remaining := by
      cases quoted <;> exact ⟨_, _, rfl⟩
    obtain ⟨rfl, rfl⟩ := List.cons.inj same
    have lone : QuotedRest ('\\' :: c :: text) ('\\' :: more) :=
      .loneBackslash (by simpa using noMark) (by simpa using noBackslash) quoted
    exact ⟨_, _, after, later, rfl, lone, follows, by simp⟩

theorem map_cons_eq_ok {result : Except LineFault (List Text)} :
    result.map (word :: ·) = .ok arguments ↔
      ∃ later, result = .ok later ∧ arguments = word :: later := by
  cases result <;> simp [Except.map, eq_comm]

/-- In every state the reader finds the arguments that the text may still be. -/
theorem readArgumentsFrom_eq_ok (state : ArgumentState) (text : Text) (arguments : List Text) :
    readArgumentsFrom state text = .ok arguments ↔ ReadsOn state text arguments := by
  fun_induction readArgumentsFrom state text generalizing arguments with
  | case1 => simp [ReadsOn, spells_nil, eq_comm]
  | case2 c rest blank ih => rw [ih]; exact (spells_blank_cons blank).symm
  | case3 rest ink ih => rw [ih]; exact readsOn_between_mark.symm
  | case4 c rest ink noMark ih =>
      rw [ih]
      exact (readsOn_between_bare ⟨by simpa using ink, noMark⟩).symm
  | case5 word => simp [readsOn_bare_nil, eq_comm]
  | case6 word c rest blank ih =>
      have noBare : ¬ IsBare c := by simp [IsBare, blank]
      simp only [map_cons_eq_ok, ih, readsOn_bare_end noBare, follows_cons, blank, true_and]
      rfl
  | case7 word rest ink =>
      have noBare : ¬ IsBare '"' := by simp [IsBare]
      simp [readsOn_bare_end noBare, follows_cons, ink]
  | case8 word c rest ink noMark ih =>
      rw [ih]
      exact (readsOn_bare_bare ⟨by simpa using ink, noMark⟩).symm
  | case9 word => simp [not_readsOn_quoted_nil]
  | case10 word rest ih =>
      simp only [map_cons_eq_ok, ih, readsOn_quoted_mark]
      rfl
  | case11 word rest _ ih => exact ih arguments
  | case12 word c rest noMark noBackslash ih =>
      rw [ih]
      exact (readsOn_quoted_plain noMark noBackslash).symm
  | case13 word => simp [not_readsOn_escaped_nil]
  | case14 word c rest special ih =>
      rw [ih]
      exact (readsOn_escaped_special (by simpa using special)).symm
  | case15 word c rest plain ih =>
      rw [ih]
      have parts : c ≠ '"' ∧ c ≠ '\\' := by simpa using plain
      exact (readsOn_escaped_plain parts.1 parts.2).symm
  | case16 => simp [ReadsOn, follows_nil, eq_comm]
  | case17 c rest blank ih =>
      rw [ih]
      simp [ReadsOn, follows_cons, blank]
  | case18 c rest ink => simp [ReadsOn, follows_cons, ink]

/-- The reader of arguments never misses a keyword. -/
theorem readArgumentsFrom_ne_noKeyword (state : ArgumentState) (text : Text) :
    readArgumentsFrom state text ≠ .error .noKeyword := by
  fun_induction readArgumentsFrom state text with
  | case6 word c rest blank ih =>
      cases found : readArgumentsFrom .between rest <;> simp_all [Except.map]
  | case10 word rest ih =>
      cases found : readArgumentsFrom .closed rest <;> simp_all [Except.map]
  | case2 | case3 | case4 | case8 | case11 | case12 | case14 | case15 | case17 => assumption
  | case1 | case5 | case7 | case9 | case13 | case16 | case18 => simp

/-- The reader of arguments gives exactly the arguments that a text spells.  A text that spells
none is refused with a fault of its quotation, and no text spells two lists of arguments. -/
theorem readArguments_decides_grammar (text : Text) :
    (∀ arguments, readArguments text = .ok arguments ↔ Spells text arguments) ∧
    ((∃ fault, readArguments text = .error fault ∧ fault ≠ .noKeyword) ↔
      ∀ arguments, ¬ Spells text arguments) ∧
    ∀ left right, Spells text left → Spells text right → left = right := by
  have decided (arguments : List Text) :
      readArguments text = .ok arguments ↔ Spells text arguments :=
    readArgumentsFrom_eq_ok .between text arguments
  refine ⟨decided, ?_, fun left right first second => ?_⟩
  · constructor
    · rintro ⟨fault, refused, -⟩ arguments spelled
      cases refused.symm.trans ((decided arguments).mpr spelled)
    · intro none
      cases found : readArguments text with
      | ok arguments => exact absurd ((decided arguments).mp found) (none arguments)
      | error fault =>
          refine ⟨fault, rfl, ?_⟩
          rintro rfl
          exact readArgumentsFrom_ne_noKeyword .between text found
  · have same := ((decided left).mpr first).symm.trans ((decided right).mpr second)
    exact Except.ok.inj same

-- A backslash before a mark that would end the argument makes it an item, so the argument of the
-- last text does not end.
example : readArguments "a\\b  \"c \\\" \\\\ \\d\"\u00a0\"\"".toList =
    .ok ["a\\b".toList, "c \" \\ \\d".toList, []] := by rfl
example : readArguments "\"a\\\"".toList = .error .unfinishedQuote := by rfl

end SshConfig
