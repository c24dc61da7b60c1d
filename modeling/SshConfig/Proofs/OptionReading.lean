import SshConfig.Proofs.OptionGrammar
import Mathlib.Logic.Function.Basic

namespace SshConfig.CommandLine

/-! The reader of the command line and its grammar.

The reader holds an option with a separate value back until something else is given, and enters it
then.  The grammar knows nothing of that: arguments give items, and the items are entered in their
order.  Where the reader stands after some arguments says what of the items has been entered, and
which option waits for its value.
-/

variable {text : Text} {items left right : List Item} {waiting first second : Option Parameter}

section Entering

variable {given next final : CommandLine} {item : Item}

theorem views_of_addSwitch {switch : Switch} (added : given.addSwitch switch = .ok next) :
    next.has = Function.update given.has switch true ∧ next.value? = given.value? ∧
      next.destination = given.destination := by
  unfold addSwitch at added
  split at added
  · cases added
  · cases switch <;> cases added <;> refine ⟨funext fun other => ?_, rfl, rfl⟩ <;>
      cases other <;> rfl

theorem views_of_addValue {parameter : Parameter} {value : Text}
    (added : given.addValue parameter value = .ok next) :
    next.has = given.has ∧ next.value? = Function.update given.value? parameter (some value) ∧
      next.destination = given.destination := by
  unfold addValue at added
  split at added
  · cases added
  · split at added
    · cases added
    · cases parameter <;> cases added <;> refine ⟨rfl, funext fun other => ?_, rfl⟩ <;>
        cases other <;> rfl

/-- The command line with one more thing given, which may be done once. -/
def enter (given : CommandLine) : Item → Except Refusal CommandLine
  | .switch switch => given.addSwitch switch
  | .value parameter value => given.addValue parameter value
  | .destination destination =>
      if given.destination.isSome then .error .unknownArgument
      else .ok { given with destination := some destination }

def enterAll (given : CommandLine) (items : List Item) : Except Refusal CommandLine :=
  items.foldlM enter given

theorem bind_eq_ok {α β : Type} {result : Except Refusal α} {next : α → Except Refusal β}
    {value : β} :
    result >>= next = .ok value ↔ ∃ first, result = .ok first ∧ next first = .ok value := by
  cases result <;> simp [bind, Except.bind]

theorem enterAll_nil : given.enterAll [] = .ok final ↔ given = final := by
  simp [enterAll, pure, Except.pure]

theorem enterAll_cons :
    given.enterAll (item :: items) = .ok final ↔
      ∃ next, given.enter item = .ok next ∧ next.enterAll items = .ok final := by
  rw [enterAll, List.foldlM_cons, bind_eq_ok]
  rfl

theorem enterAll_append :
    given.enterAll (left ++ right) = .ok final ↔
      ∃ next, given.enterAll left = .ok next ∧ next.enterAll right = .ok final := by
  rw [enterAll, List.foldlM_append, bind_eq_ok]
  rfl

theorem enterAll_singleton : given.enterAll [item] = .ok final ↔ given.enter item = .ok final := by
  simp [enterAll_cons, enterAll_nil]

end Entering

/-- An option that is open because its value comes next. -/
def OpenParameter.ofWaiting : Option Parameter → OpenParameter
  | Option.none => .none
  | some parameter => .awaiting parameter

namespace Progress

variable {progress next : Progress} {given final : CommandLine}

/-- What has been given when the reader has come to some state, and the option that waits for its
value. -/
def Stands (progress : Progress) (given : CommandLine) (waiting : Option Parameter) : Prop :=
  match progress.opened with
  | .awaiting parameter => given = progress.given ∧ waiting = some parameter
  | _ => progress.settle = .ok given ∧ waiting = none

/-- Whether the reader comes from one state to another when some items are given. -/
def Enters (progress : Progress) (items : List Item) (waiting : Option Parameter)
    (next : Progress) : Prop :=
  ∃ given, progress.settle = .ok given ∧ given.enterAll items = .ok next.given ∧
    next.opened = .ofWaiting waiting

theorem stands_of_ofWaiting (opened : progress.opened = .ofWaiting waiting) :
    progress.Stands given first ↔ given = progress.given ∧ first = waiting := by
  cases waiting <;> simp [Stands, settle, opened, OpenParameter.ofWaiting, eq_comm]

theorem addName_switch {switch : Switch} :
    progress.addName (.switch switch) = .ok next ↔ progress.Enters [.switch switch] none next := by
  obtain ⟨given, opened⟩ := next
  simp only [addName, Enters, bind_eq_ok, enterAll_singleton, enter]
  simp [pure, Except.pure, OpenParameter.ofWaiting, @eq_comm _ opened]

theorem addName_parameter {parameter : Parameter} :
    progress.addName (.parameter parameter) = .ok next ↔
      progress.Enters [] (some parameter) next := by
  obtain ⟨given, opened⟩ := next
  simp only [addName, Enters, bind_eq_ok, enterAll_nil]
  simp [pure, Except.pure, OpenParameter.ofWaiting, @eq_comm _ opened]

theorem addName_cases {name : Name} (added : progress.addName name = .ok next) :
    (∃ switch, name = .switch switch ∧ progress.Enters [.switch switch] none next) ∨
      ∃ parameter, name = .parameter parameter ∧ progress.Enters [] (some parameter) next := by
  cases name with
  | switch switch => exact .inl ⟨switch, rfl, addName_switch.mp added⟩
  | parameter parameter => exact .inr ⟨parameter, rfl, addName_parameter.mp added⟩
  | help | version =>
      obtain ⟨given, -, refused⟩ := bind_eq_ok.mp added
      cases refused

theorem addAttached_eq_ok {parameter : Parameter} {value : Text} :
    progress.addAttached parameter value = .ok next ↔
      progress.Enters [.value parameter value] none next := by
  obtain ⟨given, opened⟩ := next
  simp only [addAttached, Enters, bind_eq_ok, enterAll_singleton, enter]
  simp [pure, Except.pure, OpenParameter.ofWaiting, @eq_comm _ opened]

-- The reader looks for an earlier destination before it settles, the grammar after that.
theorem settle_destination (settled : progress.settle = .ok given) :
    given.destination = progress.given.destination := by
  unfold settle at settled
  split at settled
  · cases settled
    rfl
  · cases settled
  · exact (views_of_addValue settled).2.2

theorem addDestination_eq_ok :
    progress.addDestination text = .ok next ↔ progress.Enters [.destination text] none next := by
  obtain ⟨given, opened⟩ := next
  simp only [addDestination, Enters, enterAll_singleton, enter]
  constructor
  · intro added
    split at added
    · cases added
    · rename_i first
      obtain ⟨before, settled, same⟩ := bind_eq_ok.mp added
      cases same
      rw [← settle_destination settled] at first
      exact ⟨before, settled, if_neg first, rfl⟩
  · rintro ⟨before, settled, entered, rfl⟩
    rw [settle_destination settled] at entered
    split at entered
    · cases entered
    · rename_i first
      cases entered
      rw [if_neg first, settled]
      rfl

theorem addLong_eq_ok :
    progress.addLong text = .ok next ↔
      ∃ items waiting, LongName text items waiting ∧ progress.Enters items waiting next := by
  constructor
  · intro added
    unfold addLong at added
    split at added
    · split at added
      · cases added
      · rename_i name found
        have known := Name.ofLong?_eq_some.mp found
        rcases addName_cases added with ⟨switch, rfl, enters⟩ | ⟨parameter, rfl, enters⟩
        · exact ⟨_, _, .switch known, enters⟩
        · exact ⟨_, _, .parameter known, enters⟩
    · rename_i name value parts
      obtain ⟨rfl, noSign⟩ := Text.splitFirst_eq_some.mp parts
      split at added
      · cases added
      · rename_i parameter found
        exact ⟨_, _, .signed (Name.ofLong?_eq_some.mp found), addAttached_eq_ok.mp added⟩
      · cases added
  · rintro ⟨items, waiting, long, enters⟩
    unfold addLong
    cases long with
    | switch known =>
        rw [Text.splitFirst_eq_none.mpr known.noSign, Name.ofLong?_eq_some.mpr known]
        exact addName_switch.mpr enters
    | parameter known =>
        rw [Text.splitFirst_eq_none.mpr known.noSign, Name.ofLong?_eq_some.mpr known]
        exact addName_parameter.mpr enters
    | signed known =>
        rw [Text.splitFirst_append known.noSign]
        simp only [Name.ofLong?_eq_some.mpr known]
        exact addAttached_eq_ok.mpr enters

theorem settle_of_closed (closed : progress.opened = .ofWaiting none) :
    progress.settle = .ok progress.given := by
  simp [settle, closed, OpenParameter.ofWaiting]

theorem enters_cons {item : Item} :
    progress.Enters (item :: items) waiting next ↔
      ∃ middle, progress.Enters [item] none middle ∧ middle.Enters items waiting next := by
  constructor
  · rintro ⟨given, settled, entered, opened⟩
    obtain ⟨more, first, rest⟩ := enterAll_cons.mp entered
    exact ⟨{ given := more }, ⟨given, settled, enterAll_singleton.mpr first, rfl⟩,
      ⟨more, rfl, rest, opened⟩⟩
  · rintro ⟨middle, ⟨given, settled, first, closed⟩, ⟨more, again, rest, opened⟩⟩
    cases (settle_of_closed closed).symm.trans again
    exact ⟨given, settled, enterAll_cons.mpr ⟨_, enterAll_singleton.mp first, rest⟩, opened⟩

theorem enters_nil (closed : progress.opened = .none) :
    progress.Enters [] none next ↔ progress = next := by
  obtain ⟨given, _⟩ := progress
  obtain ⟨_, opened⟩ := next
  cases closed
  simp [Enters, settle, enterAll_nil, OpenParameter.ofWaiting, @eq_comm _ opened]

-- The letters of one argument are entered one by one.  Only the first can find an option open, so an
-- option is closed before letters that may be none.
theorem addShort_of_letters (letters : Letters text items waiting)
    (ready : text ≠ [] ∨ progress.opened = .none) (enters : progress.Enters items waiting next) :
    progress.addShort text = .ok next := by
  induction letters generalizing progress with
  | nothing =>
      have closed := ready.resolve_left (absurd rfl)
      rw [addShort, (enters_nil closed).mp enters]
  | switch known rest ih =>
      obtain ⟨middle, first, others⟩ := enters_cons.mp enters
      have added := addName_switch.mpr first
      have closed : middle.opened = .none := first.choose_spec.2.2
      simp only [addShort, Name.ofShort?_eq_some.mpr known, added]
      exact ih (.inr closed) others
  | parameter known =>
      simp only [addShort, Name.ofShort?_eq_some.mpr known]
      exact addName_parameter.mpr enters
  | @attached _ _ value known filled noSign =>
      simp only [addShort, Name.ofShort?_eq_some.mpr known]
      split
      · exact absurd rfl filled
      · exact absurd rfl noSign
      · exact addAttached_eq_ok.mpr enters
  | signed known =>
      simp only [addShort, Name.ofShort?_eq_some.mpr known]
      exact addAttached_eq_ok.mpr enters

theorem exists_letters (ready : text ≠ [] ∨ progress.opened = .none)
    (added : progress.addShort text = .ok next) :
    ∃ items waiting, Letters text items waiting ∧ progress.Enters items waiting next := by
  fun_induction addShort progress text with
  | case1 progress =>
      have closed := ready.resolve_left (absurd rfl)
      exact ⟨[], none, .nothing, (enters_nil closed).mpr (Except.ok.inj added)⟩
  | case2 => cases added
  | case3 progress letter parameter found =>
      exact ⟨_, _, .parameter (Name.ofShort?_eq_some.mp found), addName_parameter.mp added⟩
  | case4 progress letter parameter found value =>
      exact ⟨_, _, .signed (Name.ofShort?_eq_some.mp found), addAttached_eq_ok.mp added⟩
  | case5 progress letter parameter found value filled unsigned =>
      have noSign : value.head? ≠ some '=' := by
        intro sign
        obtain ⟨rest, same⟩ := List.head?_eq_some_iff.mp sign
        exact unsigned rest same
      exact ⟨_, _, .attached (Name.ofShort?_eq_some.mp found) filled noSign,
        addAttached_eq_ok.mp added⟩
  | case6 => cases added
  | case7 progress letter rest name noParameter found middle first ih =>
      rcases addName_cases first with ⟨switch, rfl, enters⟩ | ⟨parameter, rfl, -⟩
      · obtain ⟨items, waiting, letters, others⟩ := ih (.inr enters.choose_spec.2.2) added
        exact ⟨_, _, .switch (Name.ofShort?_eq_some.mp found) letters,
          enters_cons.mpr ⟨middle, enters, others⟩⟩
      · exact absurd rfl (noParameter parameter)

/-- What the reader makes of an argument that is not the value of an option. -/
theorem addArgument_of_hyphen (hyphen : ¬ IsPlain text) :
    progress.addArgument text = .ok next ↔
      ∃ items waiting, Argument none text items waiting ∧ progress.Enters items waiting next := by
  rcases argument_shapes text with plain | ⟨name, rfl⟩ | ⟨letter, letters, other, rfl⟩
  · exact absurd plain hyphen
  · simp only [argument_long_iff]
    exact addLong_eq_ok
  · have filled : letter :: letters ≠ [] := List.cons_ne_nil letter letters
    have short : progress.addArgument ('-' :: letter :: letters) =
        progress.addShort (letter :: letters) := by
      unfold addArgument
      split
      · rename_i same
        cases same
        exact absurd rfl other
      · rename_i same
        cases same
        rfl
      · rename_i noLetters
        exact absurd rfl (noLetters letter letters)
    simp only [argument_letters_iff other, short]
    constructor
    · exact exists_letters (.inl filled)
    · rintro ⟨items, waiting, known, enters⟩
      exact addShort_of_letters known (.inl filled) enters

theorem addArgument_of_plain (plain : IsPlain text) :
    progress.addArgument text = progress.addPlain text := by
  unfold addArgument
  split
  · exact absurd plain not_isPlain
  · exact absurd plain not_isPlain
  · rfl

theorem stands_none : progress.Stands given none ↔ progress.settle = .ok given := by
  unfold Stands settle
  cases progress.opened <;> simp

theorem stands_some {parameter : Parameter} :
    progress.Stands given (some parameter) ↔
      given = progress.given ∧ progress.opened = .awaiting parameter := by
  unfold Stands
  cases progress.opened <;> simp [eq_comm]

theorem enters_stands :
    (∃ next, progress.Enters items waiting next ∧ next.Stands final second) ↔
      ∃ given, progress.settle = .ok given ∧ given.enterAll items = .ok final ∧
        second = waiting := by
  constructor
  · rintro ⟨next, ⟨given, settled, entered, opened⟩, stands⟩
    obtain ⟨rfl, same⟩ := (stands_of_ofWaiting opened).mp stands
    exact ⟨given, settled, entered, same⟩
  · rintro ⟨given, settled, entered, rfl⟩
    refine ⟨⟨final, .ofWaiting second⟩, ⟨given, settled, entered, rfl⟩, ?_⟩
    exact (stands_of_ofWaiting rfl).mpr ⟨rfl, rfl⟩

/-- One argument takes the reader from where it stands to what the argument gives. -/
theorem addArgument_stands :
    (∃ next, progress.addArgument text = .ok next ∧ next.Stands final second) ↔
      ∃ given first items, progress.Stands given first ∧ Argument first text items second ∧
        given.enterAll items = .ok final := by
  constructor
  · rintro ⟨next, added, stands⟩
    by_cases plain : IsPlain text
    · rw [addArgument_of_plain plain, addPlain] at added
      split at added
      · rename_i parameter opened
        cases added
        obtain ⟨entered, rfl⟩ : progress.given.addValue parameter text = .ok final ∧ second = none :=
          stands
        exact ⟨progress.given, some parameter, _, stands_some.mpr ⟨rfl, opened⟩, .value plain,
          enterAll_singleton.mpr entered⟩
      · obtain ⟨given, settled, entered, rfl⟩ :=
          enters_stands.mp ⟨next, addDestination_eq_ok.mp added, stands⟩
        exact ⟨given, none, _, stands_none.mpr settled, .destination plain, entered⟩
    · obtain ⟨items, waiting, argument, enters⟩ := (addArgument_of_hyphen plain).mp added
      obtain ⟨given, settled, entered, rfl⟩ := enters_stands.mp ⟨next, enters, stands⟩
      exact ⟨given, none, items, stands_none.mpr settled, argument, entered⟩
  · rintro ⟨given, first, items, stands, argument, entered⟩
    cases first with
    | some parameter =>
        obtain ⟨rfl, opened⟩ := stands_some.mp stands
        cases argument with
        | value plain =>
            refine ⟨{ progress with opened := .filled parameter text }, ?_, ?_⟩
            · rw [addArgument_of_plain plain, addPlain, opened]
            · exact ⟨enterAll_singleton.mp entered, rfl⟩
    | none =>
        have settled := stands_none.mp stands
        obtain ⟨next, enters, after⟩ := enters_stands.mpr ⟨given, settled, entered, rfl⟩
        refine ⟨next, ?_, after⟩
        by_cases plain : IsPlain text
        · obtain ⟨rfl, rfl⟩ := (argument_plain_iff plain).mp argument
          rw [addArgument_of_plain plain, addPlain]
          split
          · rename_i opened
            simp [settle, opened] at settled
          · exact addDestination_eq_ok.mpr enters
        · exact (addArgument_of_hyphen plain).mpr ⟨items, second, argument, enters⟩

theorem addDestinations_settle {arguments : List Text} :
    (∃ read, progress.addDestinations arguments = .ok read ∧ read.settle = .ok final) ↔
      ∃ given, progress.settle = .ok given ∧
        given.enterAll (arguments.map .destination) = .ok final := by
  induction arguments generalizing progress with
  | nil => simp [addDestinations, enterAll_nil]
  | cons argument rest ih =>
      have step : progress.addDestinations (argument :: rest) =
          progress.addDestination argument >>= fun next => next.addDestinations rest := by
        rw [addDestinations]
        cases progress.addDestination argument <;> rfl
      simp only [step, bind_eq_ok, addDestination_eq_ok, List.map_cons]
      constructor
      · rintro ⟨read, ⟨next, ⟨given, settled, entered, closed⟩, others⟩, ended⟩
        obtain ⟨middle, same, onward⟩ := ih.mp ⟨read, others, ended⟩
        cases (settle_of_closed closed).symm.trans same
        exact ⟨given, settled, enterAll_cons.mpr ⟨_, enterAll_singleton.mp entered, onward⟩⟩
      · rintro ⟨given, settled, entered⟩
        obtain ⟨middle, first, onward⟩ := enterAll_cons.mp entered
        have closed : ({ given := middle } : Progress).settle = .ok middle := rfl
        obtain ⟨read, others, ended⟩ := ih.mpr ⟨middle, closed, onward⟩
        have enters : progress.Enters [.destination argument] none { given := middle } :=
          ⟨given, settled, enterAll_singleton.mpr first, rfl⟩
        exact ⟨read, ⟨_, enters, others⟩, ended⟩

/-- Reading enters what the arguments give.  The option that is still open at their end is entered
last. -/
theorem addArguments_settle {arguments : List Text} :
    (∃ read, progress.addArguments arguments = .ok read ∧ read.settle = .ok final) ↔
      ∃ given waiting items, progress.Stands given waiting ∧ Gives waiting arguments items ∧
        given.enterAll items = .ok final := by
  induction arguments generalizing progress with
  | nil =>
      constructor
      · rintro ⟨read, ⟨⟩, settled⟩
        exact ⟨final, none, [], stands_none.mpr settled, .nothing, enterAll_nil.mpr rfl⟩
      · rintro ⟨given, waiting, items, stands, gives, entered⟩
        cases gives
        cases enterAll_nil.mp entered
        exact ⟨progress, rfl, stands_none.mp stands⟩
  | cons argument rest ih =>
      by_cases hyphens : argument = ['-', '-']
      · subst hyphens
        rw [addArguments, addDestinations_settle]
        constructor
        · rintro ⟨given, settled, entered⟩
          exact ⟨given, none, _, stands_none.mpr settled, .destinations, entered⟩
        · rintro ⟨given, waiting, items, stands, gives, entered⟩
          cases gives with
          | argument first => exact absurd first not_argument_hyphens
          | destinations => exact ⟨given, stands_none.mp stands, entered⟩
      · have step : progress.addArguments (argument :: rest) =
            progress.addArgument argument >>= fun next => next.addArguments rest := by
          rw [addArguments]
          · cases progress.addArgument argument <;> rfl
          · exact hyphens
        simp only [step, bind_eq_ok]
        constructor
        · rintro ⟨read, ⟨next, added, others⟩, settled⟩
          obtain ⟨middle, waiting, later, stands, gives, entered⟩ := ih.mp ⟨read, others, settled⟩
          obtain ⟨given, first, items, before, taken, reached⟩ :=
            addArgument_stands.mp ⟨next, added, stands⟩
          exact ⟨given, first, items ++ later, before, .argument taken gives,
            enterAll_append.mpr ⟨middle, reached, entered⟩⟩
        · rintro ⟨given, first, items, before, gives, entered⟩
          cases gives with
          | destinations => exact absurd rfl hyphens
          | argument taken later =>
              obtain ⟨middle, reached, onward⟩ := enterAll_append.mp entered
              obtain ⟨next, added, stands⟩ :=
                addArgument_stands.mpr ⟨given, first, _, before, taken, reached⟩
              obtain ⟨read, others, settled⟩ := ih.mpr ⟨middle, _, _, stands, later, onward⟩
              exact ⟨read, ⟨next, added, others⟩, settled⟩

end Progress

end SshConfig.CommandLine
