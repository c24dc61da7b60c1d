import SshConfig.CommandLine.Arguments
import SshConfig.Proofs.Pieces
import Mathlib.Data.List.Nodup

namespace SshConfig

/-! The grammar of the command line.

Options and destinations stand in any order.  A switch is a letter among others after one hyphen, or
a name after two, which may be shortened as long as it means one option only.  An option with a value
has it in the same argument or in the next.  So an argument gives switches, values and destinations,
or leaves an option to wait, and all arguments can be taken in one way only.
-/

namespace CommandLine

/-- Whether a text means an option after two hyphens: no other name begins with it.  No name begins
with another, so each means its own option. -/
def Abbreviates (text : Text) (name : Name) : Prop :=
  text <+: name.long.toList ∧ ∀ other : Name, text <+: other.long.toList → other = name

namespace Name

theorem mem_all (name : Name) : name ∈ all := by
  rcases name with switch | parameter | _ | _
  · cases switch <;> decide
  · cases parameter <;> decide
  · decide
  · decide

variable {letter : Char} {text : Text} {name other : Name}

theorem ofShort?_eq_some : ofShort? letter = some name ↔ name.short? = some letter := by
  constructor
  · intro found
    exact beq_iff_eq.mp (List.find?_some (p := fun name : Name => name.short? == some letter) found)
  · intro known
    rcases name with switch | parameter | _ | _
    · cases switch <;> cases known <;> rfl
    · cases parameter <;> cases known <;> rfl
    · cases known
      rfl
    · cases known
      rfl

theorem eq_of_short? (first : name.short? = some letter) (second : other.short? = some letter) :
    name = other :=
  Option.some.inj ((ofShort?_eq_some.mpr first).symm.trans (ofShort?_eq_some.mpr second))

theorem short?_ne_hyphen : name.short? ≠ some '-' := by
  have letters : ∀ name ∈ all, name.short? ≠ some '-' := by decide
  exact letters name (mem_all name)

theorem eq_of_long_isPrefix (begins : name.long.toList <+: other.long.toList) : name = other := by
  have apart : ∀ name ∈ all, ∀ other ∈ all,
      name.long.toList <+: other.long.toList → name = other := by decide
  exact apart name (mem_all name) other (mem_all other) begins

theorem nodup_all : all.Nodup := by decide

theorem ofLong?_eq_some : ofLong? text = some name ↔ Abbreviates text name := by
  unfold ofLong?
  cases exact : all.find? fun name => name.long.toList == text with
  | some found =>
      have same : found.long.toList = text :=
        beq_iff_eq.mp (List.find?_some (p := fun name : Name => name.long.toList == text) exact)
      subst same
      constructor
      · rintro ⟨⟩
        exact ⟨List.prefix_rfl, fun other begins => (eq_of_long_isPrefix begins).symm⟩
      · intro abbreviates
        rw [eq_of_long_isPrefix abbreviates.1]
  | none =>
      have among (other : Name) :
          other ∈ (all.filter fun name => text.isPrefixOf name.long.toList) ↔
            text <+: other.long.toList := by
        simp [mem_all]
      dsimp only
      constructor
      · intro only
        split at only
        · rename_i single
          cases only
          simp only [single, List.mem_singleton] at among
          exact ⟨(among name).mp rfl, fun other => (among other).mpr⟩
        · cases only
      · rintro ⟨begins, only⟩
        have distinct := nodup_all.filter fun name => text.isPrefixOf name.long.toList
        have single : (all.filter fun name => text.isPrefixOf name.long.toList) = [name] := by
          apply List.perm_singleton.mp
          apply (List.perm_ext_iff_of_nodup distinct (List.nodup_singleton name)).mpr
          intro other
          rw [among, List.mem_singleton]
          exact ⟨only other, fun same => same ▸ begins⟩
        rw [single]

end Name

theorem Abbreviates.noSign {text : Text} {name : Name} (abbreviates : Abbreviates text name) :
    '=' ∉ text := by
  have noSigns : ∀ name ∈ Name.all, '=' ∉ name.long.toList := by decide
  exact fun sign => noSigns name (Name.mem_all name) (abbreviates.1.subset sign)

theorem Abbreviates.eq {text : Text} {name other : Name} (first : Abbreviates text name)
    (second : Abbreviates text other) : name = other :=
  second.2 name first.1

theorem not_abbreviates_nil {name : Name} : ¬ Abbreviates [] name := by
  rintro ⟨-, only⟩
  cases (only .help List.nil_prefix).trans (only .version List.nil_prefix).symm

/-- One thing that arguments give.  Help and the version are not among them: arguments that ask for
either are not carried out. -/
inductive Item where
  | switch (switch : Switch)
  | value (parameter : Parameter) (value : Text)
  | destination (destination : Text)

/-- What the letters after one hyphen give, and the option that they leave to wait for its value.  The
letter of an option with a value takes all that follows it, without an equals sign in front. -/
inductive Letters : Text → List Item → Option Parameter → Prop where
  | nothing : Letters [] [] none
  | switch (known : (Name.switch switch).short? = some letter)
      (rest : Letters letters items waiting) :
      Letters (letter :: letters) (.switch switch :: items) waiting
  | parameter (known : (Name.parameter parameter).short? = some letter) :
      Letters [letter] [] (some parameter)
  | attached (known : (Name.parameter parameter).short? = some letter) (filled : value ≠ [])
      (noSign : value.head? ≠ some '=') :
      Letters (letter :: value) [.value parameter value] none
  | signed (known : (Name.parameter parameter).short? = some letter) :
      Letters (letter :: '=' :: value) [.value parameter value] none

/-- What stands after two hyphens: a name, or the name of an option with its value behind an equals
sign. -/
inductive LongName : Text → List Item → Option Parameter → Prop where
  | switch (known : Abbreviates text (.switch switch)) : LongName text [.switch switch] none
  | parameter (known : Abbreviates text (.parameter parameter)) :
      LongName text [] (some parameter)
  | signed (known : Abbreviates text (.parameter parameter)) :
      LongName (text ++ '=' :: value) [.value parameter value] none

/-- Whether a text can be the value or the destination that an argument is by itself: it begins
with no hyphen, or is nothing but one. -/
def IsPlain (text : Text) : Prop :=
  text.head? = some '-' → text = ['-']

/-- What an argument gives when an option waits for its value or none does, and the option that it
leaves to wait in its turn. -/
inductive Argument : Option Parameter → Text → List Item → Option Parameter → Prop where
  | letters (filled : text ≠ []) (letters : Letters text items waiting) :
      Argument none ('-' :: text) items waiting
  | long (long : LongName text items waiting) : Argument none ('-' :: '-' :: text) items waiting
  | destination (plain : IsPlain text) : Argument none text [.destination text] none
  | value (plain : IsPlain text) : Argument (some parameter) text [.value parameter text] none

/-- What arguments give from left to right.  After two hyphens alone there are only destinations. -/
inductive Gives : Option Parameter → List Text → List Item → Prop where
  | nothing : Gives none [] []
  | argument (first : Argument waiting text items next) (rest : Gives next arguments later) :
      Gives waiting (text :: arguments) (items ++ later)
  | destinations : Gives none (['-', '-'] :: arguments) (arguments.map .destination)

theorem not_letters_hyphen {text : Text} {items : List Item} {waiting : Option Parameter} :
    ¬ Letters ('-' :: text) items waiting := by
  intro letters
  cases letters <;> exact Name.short?_ne_hyphen ‹_›

theorem not_isPlain {c : Char} {text : Text} : ¬ IsPlain ('-' :: c :: text) := by
  intro plain
  cases plain rfl

variable {text : Text} {items left right : List Item} {waiting first second : Option Parameter}

theorem argument_long_iff :
    Argument none ('-' :: '-' :: text) items waiting ↔ LongName text items waiting := by
  constructor
  · intro argument
    cases argument with
    | letters filled letters => exact absurd letters not_letters_hyphen
    | long long => exact long
    | destination plain => exact absurd plain not_isPlain
  · exact .long

theorem argument_letters_iff {letter : Char} (other : letter ≠ '-') :
    Argument none ('-' :: letter :: text) items waiting ↔ Letters (letter :: text) items waiting := by
  constructor
  · intro argument
    cases argument with
    | letters filled letters => exact letters
    | long long => exact absurd rfl other
    | destination plain => exact absurd plain not_isPlain
  · exact .letters (List.cons_ne_nil letter text)

theorem argument_plain_iff (plain : IsPlain text) :
    Argument none text items waiting ↔ items = [.destination text] ∧ waiting = none := by
  constructor
  · intro argument
    cases argument with
    | letters filled letters => exact absurd (List.cons.inj (plain rfl)).2 filled
    | long long => exact absurd plain not_isPlain
    | destination => exact ⟨rfl, rfl⟩
  · rintro ⟨rfl, rfl⟩
    exact .destination plain

theorem argument_shapes (text : Text) :
    IsPlain text ∨ (∃ name, text = '-' :: '-' :: name) ∨
      ∃ letter letters, letter ≠ '-' ∧ text = '-' :: letter :: letters := by
  rcases text with _ | ⟨c, rest⟩
  · exact .inl nofun
  · by_cases hyphen : c = '-'
    · subst hyphen
      rcases rest with _ | ⟨letter, letters⟩
      · exact .inl fun _ => rfl
      · by_cases again : letter = '-'
        · exact .inr (.inl ⟨letters, by rw [again]⟩)
        · exact .inr (.inr ⟨letter, letters, again, rfl⟩)
    · exact .inl fun head => absurd (Option.some.inj head) hyphen

theorem Letters.unique (one : Letters text left first) (other : Letters text right second) :
    left = right ∧ first = second := by
  induction one generalizing right second with
  | nothing =>
      cases other
      exact ⟨rfl, rfl⟩
  | switch known rest ih =>
      cases other with
      | switch again others =>
          cases Name.eq_of_short? known again
          obtain ⟨rfl, rfl⟩ := ih others
          exact ⟨rfl, rfl⟩
      | parameter again | attached again | signed again => cases Name.eq_of_short? known again
  | parameter known =>
      cases other with
      | switch again => cases Name.eq_of_short? known again
      | parameter again =>
          cases Name.eq_of_short? known again
          exact ⟨rfl, rfl⟩
      | attached again filled => exact absurd rfl filled
  | attached known filled noSign =>
      cases other with
      | switch again => cases Name.eq_of_short? known again
      | parameter => exact absurd rfl filled
      | attached again =>
          cases Name.eq_of_short? known again
          exact ⟨rfl, rfl⟩
      | signed => exact absurd rfl noSign
  | signed known =>
      cases other with
      | switch again => cases Name.eq_of_short? known again
      | attached _ _ noSign => exact absurd rfl noSign
      | signed again =>
          cases Name.eq_of_short? known again
          exact ⟨rfl, rfl⟩

theorem longName_iff_of_noSign (noSign : '=' ∉ text) :
    LongName text items waiting ↔
      (∃ switch, Abbreviates text (.switch switch) ∧ items = [.switch switch] ∧ waiting = none) ∨
      ∃ parameter, Abbreviates text (.parameter parameter) ∧ items = [] ∧
        waiting = some parameter := by
  constructor
  · intro long
    cases long with
    | switch known => exact .inl ⟨_, known, rfl, rfl⟩
    | parameter known => exact .inr ⟨_, known, rfl, rfl⟩
    | signed known => simp at noSign
  · rintro (⟨switch, known, rfl, rfl⟩ | ⟨parameter, known, rfl, rfl⟩)
    · exact .switch known
    · exact .parameter known

theorem longName_iff_of_sign {name value : Text} (noSign : '=' ∉ name) :
    LongName (name ++ '=' :: value) items waiting ↔
      ∃ parameter, Abbreviates name (.parameter parameter) ∧ items = [.value parameter value] ∧
        waiting = none := by
  constructor
  · intro long
    have sign : '=' ∈ name ++ '=' :: value := by simp
    have parts : Text.splitFirst '=' (name ++ '=' :: value) = some (name, value) :=
      Text.splitFirst_append noSign
    generalize name ++ '=' :: value = whole at long sign parts
    cases long with
    | switch known | parameter known => exact absurd sign known.noSign
    | signed known =>
        rw [Text.splitFirst_append known.noSign] at parts
        cases parts
        exact ⟨_, known, rfl, rfl⟩
  · rintro ⟨parameter, known, rfl, rfl⟩
    exact .signed known

-- A text with an equals sign is no name, so the sign settles which of the three forms it is.
theorem LongName.unique (one : LongName text left first) (other : LongName text right second) :
    left = right ∧ first = second := by
  cases parts : Text.splitFirst '=' text with
  | none =>
      have noSign := Text.splitFirst_eq_none.mp parts
      rw [longName_iff_of_noSign noSign] at one other
      obtain ⟨switch, known, rfl, rfl⟩ | ⟨parameter, known, rfl, rfl⟩ := one <;>
        obtain ⟨_, again, rfl, rfl⟩ | ⟨_, again, rfl, rfl⟩ := other <;>
        cases known.eq again
      · exact ⟨rfl, rfl⟩
      · exact ⟨rfl, rfl⟩
  | some nameAndValue =>
      obtain ⟨rfl, noSign⟩ := Text.splitFirst_eq_some.mp parts
      rw [longName_iff_of_sign noSign] at one other
      obtain ⟨parameter, known, rfl, rfl⟩ := one
      obtain ⟨_, again, rfl, rfl⟩ := other
      cases known.eq again
      exact ⟨rfl, rfl⟩

theorem Argument.unique {before : Option Parameter} (one : Argument before text left first)
    (other : Argument before text right second) : left = right ∧ first = second := by
  cases before with
  | none =>
      rcases argument_shapes text with plain | ⟨name, rfl⟩ | ⟨letter, letters, noHyphen, rfl⟩
      · rw [argument_plain_iff plain] at one other
        exact ⟨one.1.trans other.1.symm, one.2.trans other.2.symm⟩
      · rw [argument_long_iff] at one other
        exact one.unique other
      · rw [argument_letters_iff noHyphen] at one other
        exact one.unique other
  | some parameter =>
      cases one
      cases other
      exact ⟨rfl, rfl⟩

theorem not_argument_hyphens : ¬ Argument first ['-', '-'] items second := by
  intro argument
  cases first with
  | none =>
      rw [argument_long_iff, longName_iff_of_noSign List.not_mem_nil] at argument
      rcases argument with ⟨_, known, -⟩ | ⟨_, known, -⟩ <;> exact not_abbreviates_nil known
  | some parameter =>
      cases argument with
      | value plain => exact not_isPlain plain

/-- Arguments cannot be taken in two ways. -/
theorem Gives.unique {arguments : List Text} (one : Gives waiting arguments left)
    (other : Gives waiting arguments right) : left = right := by
  induction one generalizing right with
  | nothing =>
      cases other
      rfl
  | argument argument rest ih =>
      cases other with
      | argument again others =>
          obtain ⟨rfl, rfl⟩ := argument.unique again
          rw [ih others]
      | destinations => exact absurd argument not_argument_hyphens
  | destinations =>
      cases other with
      | argument again => exact absurd again not_argument_hyphens
      | destinations => rfl

end CommandLine

end SshConfig
