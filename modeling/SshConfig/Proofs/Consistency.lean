import SshConfig.Proofs.CommandLine
import SshConfig.Proofs.OptionReading

namespace SshConfig.CommandLine

/-! Command lines that are accepted.

Arguments are accepted exactly if they give items that go together, and the command line has these
items and no others.
-/

/-- The option that an item is about.  A destination is about none. -/
def Item.option? : Item → Option Name
  | .switch option => some (.switch option)
  | .value parameter _ => some (.parameter parameter)
  | .destination _ => none

/-- Whether an option takes the value that is given for it: a path is not empty. -/
def Item.IsProper : Item → Prop
  | .value parameter text => parameter.isPath = true → text ≠ []
  | .switch _ | .destination _ => True

/-- Whether a command line has an item. -/
def Shows (given : CommandLine) : Item → Prop
  | .switch switch => given.has switch = true
  | .value parameter value => given.value? parameter = some value
  | .destination destination => given.destination = some destination

variable {given next final : CommandLine} {item other : Item} {items : List Item}

theorem not_shows_default : ¬ Shows {} item := by
  rcases item with switch | ⟨parameter, value⟩ | destination
  · cases switch <;> nofun
  · cases parameter <;> nofun
  · nofun

theorem eq_of_shows {left right : CommandLine} (same : ∀ item, left.Shows item ↔ right.Shows item) :
    left = right := by
  have switches (switch : Switch) : left.has switch = right.has switch :=
    Bool.eq_iff_iff.mpr (same (.switch switch))
  have values (parameter : Parameter) : left.value? parameter = right.value? parameter :=
    Option.ext fun value => same (.value parameter value)
  have destinations : left.destination = right.destination :=
    Option.ext fun destination => same (.destination destination)
  obtain ⟨_, _, _, _, _, _, _, _⟩ := left
  obtain ⟨_, _, _, _, _, _, _, _⟩ := right
  cases values .config
  cases values .login
  cases values .logFile
  cases destinations
  cases switches .matched
  cases switches .dump
  cases switches .debug
  cases switches .quiet
  rfl

theorem enter_of_free (proper : item.IsProper)
    (free : ∀ other, given.Shows other → other.option? ≠ item.option?) :
    ∃ next, given.enter item = .ok next := by
  rcases item with switch | ⟨parameter, value⟩ | destination
  · have unset : ¬ given.has switch = true := fun set => free (.switch switch) set rfl
    unfold enter addSwitch
    simp only [if_neg unset]
    cases switch <;> exact ⟨_, rfl⟩
  · have unset : ¬ (given.value? parameter).isSome = true := by
      intro set
      obtain ⟨earlier, found⟩ := Option.isSome_iff_exists.mp set
      exact free (.value parameter earlier) found rfl
    have allowed : ¬ (parameter.isPath && value.isEmpty) = true := by
      simpa [Item.IsProper] using proper
    unfold enter addValue
    simp only [if_neg unset, if_neg allowed]
    cases parameter <;> exact ⟨_, rfl⟩
  · have unset : ¬ given.destination.isSome = true := by
      intro set
      obtain ⟨earlier, found⟩ := Option.isSome_iff_exists.mp set
      exact free (.destination earlier) found rfl
    unfold enter
    simp only [if_neg unset]
    exact ⟨_, rfl⟩

theorem isProper_of_enter (entered : given.enter item = .ok next) : item.IsProper := by
  rcases item with switch | ⟨parameter, value⟩ | destination
  · trivial
  · unfold enter addValue at entered
    dsimp only at entered
    split at entered
    · cases entered
    · split at entered
      · cases entered
      · rename_i allowed
        simpa [Item.IsProper] using allowed
  · trivial

theorem free_of_enter (entered : given.enter item = .ok next) (shown : given.Shows other) :
    other.option? ≠ item.option? := by
  intro same
  -- Two items about the same option are of one kind, so three of nine cases are left.
  rcases item with switch | ⟨parameter, value⟩ | destination <;>
    rcases other with otherSwitch | ⟨otherParameter, otherValue⟩ | otherDestination <;>
    cases same
  · simp [enter, addSwitch, show given.has switch = true from shown] at entered
  · simp [enter, addValue, show given.value? parameter = some otherValue from shown] at entered
  · simp [enter, show given.destination = some otherDestination from shown] at entered

theorem shows_of_enter (entered : given.enter item = .ok next) :
    next.Shows other ↔ given.Shows other ∨ other = item := by
  have free (other : Item) (same : other.option? = item.option?) : ¬ given.Shows other :=
    fun shown => free_of_enter entered shown same
  cases item with
  | switch switch =>
      obtain ⟨switches, values, destination⟩ := views_of_addSwitch entered
      cases other with
      | switch other =>
          by_cases same : other = switch <;> simp [Shows, switches, same]
      | value | destination => simp [Shows, values, destination]
  | value parameter value =>
      obtain ⟨switches, values, destination⟩ := views_of_addValue entered
      cases other with
      | value other text =>
          by_cases same : other = parameter
          · subst same
            have unset : ¬ given.value? other = some text := free (.value other text) rfl
            simp [Shows, values, unset, eq_comm]
          · simp [Shows, values, same]
      | switch | destination => simp [Shows, switches, destination]
  | destination destination =>
      unfold enter at entered
      dsimp only at entered
      split at entered
      · cases entered
      · cases entered
        cases other with
        | destination other =>
            have unset : ¬ given.destination = some other := free (.destination other) rfl
            simp [Shows, unset, eq_comm]
        | switch other => cases other <;> simp [Shows, has]
        | value other => cases other <;> simp [Shows, value?]

/-- Entering succeeds exactly if nothing is about what another item is about, and then adds the
items. -/
theorem enterAll_eq_ok :
    given.enterAll items = .ok final ↔
      (∀ item ∈ items, item.IsProper) ∧ (items.map Item.option?).Nodup ∧
        (∀ item ∈ items, ∀ other, given.Shows other → other.option? ≠ item.option?) ∧
        ∀ item, final.Shows item ↔ given.Shows item ∨ item ∈ items := by
  induction items generalizing given with
  | nil =>
      rw [enterAll_nil]
      constructor
      · rintro rfl
        simp
      · rintro ⟨-, -, -, shows⟩
        exact eq_of_shows fun item => by simp [shows item]
  | cons first rest ih =>
      simp only [enterAll_cons, List.map_cons, List.nodup_cons, List.forall_mem_cons]
      constructor
      · rintro ⟨next, entered, others⟩
        obtain ⟨proper, distinct, free, shows⟩ := ih.mp others
        have added (item : Item) : next.Shows item ↔ given.Shows item ∨ item = first :=
          shows_of_enter entered
        refine ⟨⟨isProper_of_enter entered, proper⟩, ⟨?_, distinct⟩,
          ⟨fun other => free_of_enter entered, ?_⟩, ?_⟩
        · -- What was entered first is shown from then on, and no later item is about the same.
          intro twice
          obtain ⟨item, member, same⟩ := List.mem_map.mp twice
          exact free item member first ((added first).mpr (.inr rfl)) same.symm
        · exact fun item member other shown => free item member other ((added other).mpr (.inl shown))
        · intro item
          rw [shows, added, List.mem_cons, or_assoc]
      · rintro ⟨⟨proper, properRest⟩, ⟨apart, distinct⟩, ⟨free, freeRest⟩, shows⟩
        obtain ⟨next, entered⟩ := enter_of_free proper free
        have added (item : Item) : next.Shows item ↔ given.Shows item ∨ item = first :=
          shows_of_enter entered
        refine ⟨next, entered, ih.mpr ⟨properRest, distinct, ?_, ?_⟩⟩
        · intro item member other shown same
          rcases (added other).mp shown with earlier | rfl
          · exact freeRest item member other earlier same
          · exact apart (same ▸ List.mem_map_of_mem member)
        · intro item
          rw [shows, added, List.mem_cons, or_assoc]

/-- Whether the options of a command line go together: a dump is neither for a destination's blocks
nor for a user, output is not both detailed and quiet, and there is something to do. -/
structure IsConsistent (given : CommandLine) : Prop where
  dump : given.dump = true → given.matched = false ∧ given.login = none
  detail : given.debug = true → given.quiet = false
  destination : given.dump = false → ∃ destination, given.destination = some destination

theorem hasConflict_eq_false :
    given.hasConflict = false ↔
      (given.dump = true → given.matched = false ∧ given.login = none) ∧
        (given.debug = true → given.quiet = false) := by
  unfold hasConflict
  cases given.dump <;> cases given.debug <;> simp

theorem check_eq_ok : given.check = .ok final ↔ given = final ∧ given.IsConsistent := by
  constructor
  · intro checked
    unfold check at checked
    split at checked
    · cases checked
    · split at checked
      · cases checked
      · rename_i agree present
        obtain ⟨dump, detail⟩ := hasConflict_eq_false.mp (eq_false_of_ne_true agree)
        cases checked
        refine ⟨rfl, dump, detail, fun noDump => ?_⟩
        exact Option.ne_none_iff_exists'.mp (by simpa [noDump] using present)
  · rintro ⟨rfl, dump, detail, destination⟩
    have agree := hasConflict_eq_false.mpr ⟨dump, detail⟩
    have present : (given.destination.isNone && !given.dump) = false := by
      cases noDump : given.dump with
      | true => simp
      | false =>
          obtain ⟨there, found⟩ := destination noDump
          simp [found]
    simp [check, agree, present]

/-- What it takes for items to be accepted. -/
structure Consistent (items : List Item) : Prop where
  proper : ∀ item ∈ items, item.IsProper
  /-- No option is given twice, and no second destination. -/
  once : (items.map Item.option?).Nodup
  dump : .switch .dump ∈ items → .switch .matched ∉ items ∧ ∀ user, .value .login user ∉ items
  detail : .switch .debug ∈ items → .switch .quiet ∉ items
  destination : .switch .dump ∉ items → ∃ destination, .destination destination ∈ items

theorem consistent_iff (shows : ∀ item, given.Shows item ↔ item ∈ items) :
    Consistent items ↔
      (∀ item ∈ items, item.IsProper) ∧ (items.map Item.option?).Nodup ∧ given.IsConsistent := by
  have switches (switch : Switch) : .switch switch ∈ items ↔ given.has switch = true :=
    (shows (.switch switch)).symm
  have login : (∀ user, .value .login user ∉ items) ↔ given.login = none := by
    simp only [← shows]
    exact Option.eq_none_iff_forall_ne_some.symm
  have destinations (destination : Text) :
      .destination destination ∈ items ↔ given.destination = some destination :=
    (shows (.destination destination)).symm
  constructor
  · rintro ⟨proper, once, dump, detail, destination⟩
    simp only [switches, login, destinations, has, Bool.not_eq_true] at dump detail destination
    exact ⟨proper, once, dump, detail, destination⟩
  · rintro ⟨proper, once, dump, detail, destination⟩
    refine ⟨proper, once, ?_, ?_, ?_⟩ <;>
      simpa only [switches, login, destinations, has, Bool.not_eq_true]

/-- Arguments are accepted exactly if they give items that go together, and the command line then has
these items. -/
theorem read_eq_ok {arguments : List Text} :
    CommandLine.read arguments = .ok given ↔
      ∃ items, Gives none arguments items ∧ Consistent items ∧
        ∀ item, given.Shows item ↔ item ∈ items := by
  have start (before : CommandLine) (waiting : Option Parameter) :
      Progress.Stands {} before waiting ↔ before = {} ∧ waiting = none :=
    Progress.stands_of_ofWaiting rfl
  simp only [CommandLine.read, bind_eq_ok]
  constructor
  · rintro ⟨read, added, settled, ended, checked⟩
    obtain ⟨rfl, consistent⟩ := check_eq_ok.mp checked
    obtain ⟨before, waiting, items, stands, gives, entered⟩ :=
      Progress.addArguments_settle.mp ⟨read, added, ended⟩
    obtain ⟨rfl, rfl⟩ := (start before waiting).mp stands
    obtain ⟨proper, once, -, shows⟩ := enterAll_eq_ok.mp entered
    simp only [not_shows_default, false_or] at shows
    exact ⟨items, gives, (consistent_iff shows).mpr ⟨proper, once, consistent⟩, shows⟩
  · rintro ⟨items, gives, consistent, shows⟩
    obtain ⟨proper, once, together⟩ := (consistent_iff shows).mp consistent
    have entered : enterAll {} items = .ok given := by
      refine enterAll_eq_ok.mpr ⟨proper, once, fun _ _ _ shown => ?_, ?_⟩
      · exact absurd shown not_shows_default
      · simpa [not_shows_default] using shows
    obtain ⟨read, added, ended⟩ := Progress.addArguments_settle.mpr
      ⟨{}, none, items, (start {} none).mpr ⟨rfl, rfl⟩, gives, entered⟩
    exact ⟨read, added, given, ended, check_eq_ok.mpr ⟨rfl, together⟩⟩

/-- The host that a destination names, and the user, which is what stands before its first at
sign. -/
inductive DestinationParts : Text → Option Text → Text → Prop where
  | user (noSign : '@' ∉ user) : DestinationParts (user ++ '@' :: host) (some user) host
  | host (noSign : '@' ∉ host) : DestinationParts host none host

theorem destinationParts_iff {destination host : Text} {user : Option Text} :
    DestinationParts destination user host ↔
      user = userPart destination ∧ host = hostPart destination := by
  unfold userPart hostPart
  constructor
  · intro parts
    cases parts with
    | user noSign => simp [Text.splitFirst_append noSign]
    | host noSign => simp [Text.splitFirst_eq_none.mpr noSign]
  · rintro ⟨rfl, rfl⟩
    cases parts : Text.splitFirst '@' destination with
    | none => exact .host (Text.splitFirst_eq_none.mp parts)
    | some userAndHost =>
        obtain ⟨rfl, noSign⟩ := Text.splitFirst_eq_some.mp parts
        exact .user noSign

theorem userHost_ne_missing (present : ∃ destination, given.destination = some destination) :
    given.userHost ≠ .error .missing := by
  obtain ⟨destination, found⟩ := present
  rw [userHost_of_destination found]
  split <;> simp

/-- What is accepted is consistent.  Its arguments can be taken in one way, and what they give goes
together and is all that the command line has.  Without a dump there is a destination.  A destination
has a host and perhaps a user, of which nothing is lost; the host has to be there, and the login
option is preferred to the user. -/
theorem read_consistent {arguments : List Text}
    (accepted : CommandLine.read arguments = .ok given) :
    (∃ items, Gives none arguments items ∧
      (∀ others, Gives none arguments others → others = items) ∧
      (∀ item, given.Shows item ↔ item ∈ items) ∧ Consistent items) ∧
    given.IsConsistent ∧
    (given.dump = false → given.userHost ≠ .error .missing) ∧
    ∀ destination, given.destination = some destination →
      ∃ user host, DestinationParts destination user host ∧
        (∀ otherUser otherHost, DestinationParts destination otherUser otherHost →
          otherUser = user ∧ otherHost = host) ∧
        ((∃ connection, given.userHost = .ok connection) ↔ host ≠ []) ∧
        ∀ connection, given.userHost = .ok connection →
          connection = (given.login.or user, host) := by
  obtain ⟨items, gives, consistent, shows⟩ := read_eq_ok.mp accepted
  obtain ⟨-, -, together⟩ := (consistent_iff shows).mp consistent
  have unique (others : List Item) (again : Gives none arguments others) : others = items :=
    again.unique gives
  refine ⟨⟨items, gives, unique, shows, consistent⟩, together,
    fun noDump => userHost_ne_missing (together.destination noDump), ?_⟩
  intro destination present
  refine ⟨userPart destination, hostPart destination, destinationParts_iff.mpr ⟨rfl, rfl⟩,
    fun _ _ => destinationParts_iff.mp, ?_⟩
  rw [userHost_of_destination present]
  by_cases noHost : hostPart destination = []
  · simp [noHost]
  · simp [noHost, eq_comm]

/-- A user before the login option, letters that share a hyphen, an abbreviated name and a second at
sign. -/
theorem read_consistent_clustered :
    let arguments := ["-dlbob", "--conf=c", "--", "alice@a@b"].map String.toList
    let given : CommandLine :=
      { config := some ['c'], login := some "bob".toList, debug := true
        destination := some "alice@a@b".toList }
    CommandLine.read arguments = .ok given ∧
      (∃ items, Gives none arguments items ∧ .switch .debug ∈ items ∧ .switch .quiet ∉ items) ∧
      given.userHost = .ok (some "bob".toList, "a@b".toList) := by
  intro arguments given
  have accepted : CommandLine.read arguments = .ok given := rfl
  obtain ⟨⟨items, gives, -, shows, consistent⟩, -, -, splits⟩ := read_consistent accepted
  obtain ⟨user, host, -, only, succeeds, result⟩ := splits "alice@a@b".toList rfl
  have noSign : '@' ∉ "alice".toList := by decide
  have parts : DestinationParts "alice@a@b".toList (some "alice".toList) "a@b".toList :=
    .user noSign
  obtain ⟨rfl, rfl⟩ := only _ _ parts
  obtain ⟨connection, found⟩ := succeeds.mpr (by decide)
  have debug : .switch .debug ∈ items := (shows (.switch .debug)).mp rfl
  refine ⟨accepted, ⟨items, gives, debug, consistent.detail debug⟩, ?_⟩
  rw [found, result connection found]
  rfl

end SshConfig.CommandLine
