import SshConfig.CommandLine.Run

namespace SshConfig.CommandLine

/-! Which configuration the program works with.

It is read from the file that the command line names, or from a default file that is present.  While
it is read, events may be logged to a file that is part of it, and then it cannot be read on.
-/

namespace LogFile

variable {log : LogFile}

/-- Whether a journal comes to include the log file when something stands in it.  An inclusion is
told before the file is read. -/
def ReadBack (log : LogFile) (begun : Prop) (journal : Journal) : Prop :=
  ∃ before entry rest path, journal = before ++ entry :: rest ∧
    entry.event = .inclusion path ∧ log.isAt path = true ∧
    (begun ∨ ∃ told ∈ before ++ [entry], log.records told.event = true)

theorem readBack_cons {begun : Prop} {entry : JournalEntry} {rest : Journal} :
    log.ReadBack begun (entry :: rest) ↔
      (∃ path, entry.event = .inclusion path ∧ log.isAt path = true ∧
        (begun ∨ log.records entry.event = true)) ∨
      log.ReadBack (begun ∨ log.records entry.event = true) rest := by
  constructor
  · rintro ⟨before, reading, later, path, same, event, here, written⟩
    cases before with
    | nil =>
        obtain ⟨rfl, rfl⟩ := List.cons.inj same
        exact .inl ⟨path, event, here, by simpa using written⟩
    | cons first before =>
        obtain ⟨rfl, rfl⟩ := List.cons.inj same
        refine .inr ⟨before, reading, later, path, rfl, event, here, ?_⟩
        simpa [or_assoc] using written
  · rintro (⟨path, event, here, written⟩ | ⟨before, reading, later, path, tail⟩)
    · exact ⟨[], entry, rest, path, rfl, event, here, by simpa using written⟩
    · obtain ⟨rfl, event, here, written⟩ := tail
      refine ⟨entry :: before, reading, later, path, rfl, event, here, ?_⟩
      simpa [or_assoc] using written

theorem failureWithin?_eq_none {isWritten : Bool} {journal : Journal} :
    log.failureWithin? isWritten journal = none ↔ ¬ log.ReadBack (isWritten = true) journal := by
  induction journal generalizing isWritten with
  | nil => simp [failureWithin?, ReadBack]
  | cons entry rest ih =>
      rw [readBack_cons, not_or, ← Bool.or_eq_true, ← ih]
      obtain ⟨route, event⟩ := entry
      cases event with
      | unknownKeyword => simp [failureWithin?]
      | inclusion path =>
          have here : (∃ other, Event.inclusion path = .inclusion other ∧
              log.isAt other = true ∧ (isWritten || log.records (.inclusion path)) = true) ↔
                ((isWritten || log.records (.inclusion path)) && log.isAt path) = true := by
            simp [and_comm]
          simp only [failureWithin?, here]
          split <;> simp [*]

end LogFile

/-- A configuration is the same whether or not its parsing is logged, as long as the log is not
read back with something in it. -/
theorem parseLogged_eq_ok {log : LogFile} {isWritten : Bool} {surroundings : Surroundings}
    {path : Path} {config : Config} :
    parseLogged log isWritten surroundings path = .ok config ↔
      parseFile surroundings path = .ok config ∧
        ¬ (isWritten = true ∧ log.isAt path = true) ∧
        ¬ log.ReadBack (isWritten = true) (fileJournal surroundings path) := by
  unfold parseLogged
  by_cases direct : isWritten = true ∧ log.isAt path = true
  · simp [direct]
  · have passed : (isWritten && log.isAt path) = false := by simpa using direct
    rw [passed, ← LogFile.failureWithin?_eq_none]
    cases log.failureWithin? isWritten (fileJournal surroundings path) <;> simp [direct]

section

variable {machine : Machine} {given : CommandLine} {log : Option LogFile} {config : Config}

/-- Where the files of a configuration are looked for. -/
def surroundings (machine : Machine) : Surroundings :=
  { files := machine.disk.files, home := machine.home }

/-- The configuration file of an account with the home directory. -/
def userFile (home : Path) : Path :=
  Path.join (Path.join home ".ssh".toList) "config".toList

/-- Whether the account at work has a configuration file.  It has none if its home directory is not
known. -/
def HasUserFile (machine : Machine) : Prop :=
  ∃ home, machine.home.own = some home ∧ machine.disk.isPresent (userFile home) = true

/-- The file to read: the one that a command line names, else the one of the account at work, else
the one of the system, else none. -/
inductive Chooses (machine : Machine) (given : CommandLine) : Option Path → Prop where
  | named (told : given.config = some path) : Chooses machine given (some path)
  | user (unnamed : given.config = none) (known : machine.home.own = some home)
      (present : machine.disk.isPresent (userFile home) = true) :
      Chooses machine given (some (userFile home))
  | system (unnamed : given.config = none) (noUserFile : ¬ HasUserFile machine)
      (present : machine.disk.isPresent "/etc/ssh/ssh_config".toList = true) :
      Chooses machine given (some "/etc/ssh/ssh_config".toList)
  | nothing (unnamed : given.config = none) (noUserFile : ¬ HasUserFile machine)
      (absent : machine.disk.isPresent "/etc/ssh/ssh_config".toList = false) :
      Chooses machine given none

/-- The configuration that a command line is about.  It is empty if there is no file to read. -/
def Configures (machine : Machine) (given : CommandLine) (config : Config) : Prop :=
  ∃ file, Chooses machine given file ∧
    match file with
    | none => config = {}
    | some path => parseFile (surroundings machine) path = .ok config

/-- Whether something is logged before a file is opened, when a default file is looked for. -/
inductive LogBegun (machine : Machine) (given : CommandLine) (log : LogFile) : Prop where
  | unknownHome (unnamed : given.config = none) (unknown : machine.home.own = none)
      (recorded : log.recordsUnknownHome = true)
  | absence (unnamed : given.config = none) (known : machine.home.own = some home)
      (absent : machine.disk.isPresent (userFile home) = false)
      (recorded : log.recordsAbsence = true)

/-- Whether the configuration is read from a log file in which something stands: because the file
to read is the log file, or because it includes the log file, itself or by way of others. -/
def ReadsLog (machine : Machine) (given : CommandLine) (log : Option LogFile) : Prop :=
  ∃ file path, log = some file ∧ Chooses machine given (some path) ∧
    (LogBegun machine given file ∧ file.isAt path = true ∨
      file.ReadBack (LogBegun machine given file) (fileJournal (surroundings machine) path))

theorem userFile?_of_known {home : Path} (known : machine.home.own = some home) :
    userFile? machine.home = some (userFile home) := by
  simp [userFile?, userFile, known]

theorem defaultFiles_of_known {home : Path} (known : machine.home.own = some home) :
    defaultFiles machine.home = [userFile home, systemFile] := by
  simp [defaultFiles, userFile?_of_known known]

theorem find?_defaultFiles_of_user {home : Path} (known : machine.home.own = some home)
    (present : machine.disk.isPresent (userFile home) = true) :
    (defaultFiles machine.home).find? machine.disk.isPresent = some (userFile home) := by
  rw [defaultFiles_of_known known, List.find?_cons_of_pos present]

theorem find?_defaultFiles_of_noUserFile (noUserFile : ¬ HasUserFile machine) :
    (defaultFiles machine.home).find? machine.disk.isPresent =
      [systemFile].find? machine.disk.isPresent := by
  cases known : machine.home.own with
  | none => simp [defaultFiles, userFile?, known]
  | some home =>
      have absent : ¬ machine.disk.isPresent (userFile home) = true :=
        fun present => noUserFile ⟨home, known, present⟩
      rw [defaultFiles_of_known known, List.find?_cons_of_neg absent]

theorem Chooses.configFile?_eq {file : Option Path} (chosen : Chooses machine given file) :
    configFile? machine given = file := by
  cases chosen with
  | named told => simp [configFile?, told]
  | user unnamed known present =>
      simp [configFile?, unnamed, find?_defaultFiles_of_user known present]
  | system unnamed noUserFile present =>
      rw [configFile?, unnamed, Option.none_or, find?_defaultFiles_of_noUserFile noUserFile]
      exact List.find?_cons_of_pos present
  | nothing unnamed noUserFile absent =>
      rw [configFile?, unnamed, Option.none_or, find?_defaultFiles_of_noUserFile noUserFile]
      exact List.find?_cons_of_neg (Bool.eq_false_iff.mp absent)

theorem exists_chooses (machine : Machine) (given : CommandLine) :
    ∃ file, Chooses machine given file := by
  cases told : given.config with
  | some path => exact ⟨_, .named told⟩
  | none =>
      by_cases hasUserFile : HasUserFile machine
      · obtain ⟨home, known, present⟩ := hasUserFile
        exact ⟨_, .user told known present⟩
      · cases present : machine.disk.isPresent "/etc/ssh/ssh_config".toList with
        | true => exact ⟨_, .system told hasUserFile present⟩
        | false => exact ⟨_, .nothing told hasUserFile present⟩

theorem chooses_iff {file : Option Path} :
    Chooses machine given file ↔ configFile? machine given = file := by
  constructor
  · exact Chooses.configFile?_eq
  · rintro rfl
    obtain ⟨file, chosen⟩ := exists_chooses machine given
    rwa [chosen.configFile?_eq]

theorem isLogBegun_iff {file : LogFile} :
    isLogBegun machine given file = true ↔ LogBegun machine given file := by
  unfold isLogBegun
  constructor
  · intro begun
    obtain ⟨unnamed, recorded⟩ := Bool.and_eq_true_iff.mp begun
    have unnamed := Option.isNone_iff_eq_none.mp unnamed
    cases known : machine.home.own with
    | none => exact .unknownHome unnamed known (by simpa [userFile?, known] using recorded)
    | some home =>
        have both : machine.disk.isPresent (userFile home) = false ∧
            file.recordsAbsence = true := by
          simpa [userFile?_of_known known] using recorded
        exact .absence unnamed known both.1 both.2
  · rintro (⟨unnamed, unknown, recorded⟩ | ⟨unnamed, known, absent, recorded⟩)
    · simp [unnamed, userFile?, unknown, recorded]
    · simp [unnamed, userFile?_of_known known, absent, recorded]

theorem load_eq_ok :
    load machine given log = .ok config ↔
      Configures machine given config ∧ ¬ ReadsLog machine given log := by
  simp only [Configures, ReadsLog, chooses_iff, ← isLogBegun_iff]
  unfold load
  cases configFile? machine given with
  | none =>
      have empty : Except.ok (ε := Failure) ({} : Config) = .ok config ↔ config = {} := by
        rw [Except.ok.injEq, eq_comm]
      simpa using empty
  | some path =>
      cases log with
      | none => simp [surroundings]
      | some file => simp [parseLogged_eq_ok, surroundings, not_or]

end

end SshConfig.CommandLine
