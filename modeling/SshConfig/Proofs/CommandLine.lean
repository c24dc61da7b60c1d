import SshConfig.Proofs.Loading
import SshConfig.Proofs.Printing

namespace SshConfig.CommandLine

/-! What the program prints, and when.

The program reads one configuration, or none at all, and prints either all of it or what it means
for one destination.  What it prints goes through a stream that leaves out the control sequences of
a terminal, unless it leads to a terminal that shows colours, and a log file may be part of what is
read.  Apart from that the output is the text of the result.
-/

/-- What stands in a destination after the first at sign, or all of it if there is none. -/
def hostPart (destination : Text) : Text :=
  match Text.splitFirst '@' destination with
  | none => destination
  | some (_, host) => host

/-- What stands in a destination before the first at sign, if there is one. -/
def userPart (destination : Text) : Option Text :=
  (Text.splitFirst '@' destination).map Prod.fst

theorem userHost_of_destination {given : CommandLine} {destination : Text}
    (present : given.destination = some destination) :
    given.userHost =
      if hostPart destination = [] then .error .noHost
      else .ok (given.login.or (userPart destination), hostPart destination) := by
  cases parts : Text.splitFirst '@' destination <;>
    simp [userHost, hostPart, userPart, present, parts]

/-- A command line names a host exactly if its destination has a host part. -/
theorem userHost_of_noHost {given : CommandLine}
    (noHost : ¬ ∃ destination, given.destination = some destination ∧ hostPart destination ≠ []) :
    ∃ fault, given.userHost = .error fault := by
  cases present : given.destination with
  | none => exact ⟨.missing, by simp [userHost, present]⟩
  | some destination =>
      have empty : hostPart destination = [] :=
        Classical.byContradiction fun filled => noHost ⟨destination, present, filled⟩
      exact ⟨.noHost, by simp [userHost_of_destination present, empty]⟩

theorem answer_failed {machine : Machine} {given : CommandLine} {log : Option LogFile}
    (failed : ∀ config, load machine given log ≠ .ok config) :
    (answer machine given log).exitCode = 1 ∧ (answer machine given log).output = [] := by
  unfold answer
  cases loaded : load machine given log with
  | error failure => exact ⟨rfl, rfl⟩
  | ok config => exact absurd loaded (failed config)

theorem answer_dump {machine : Machine} {given : CommandLine} {log : Option LogFile}
    {config : Config} (loaded : load machine given log = .ok config) (dump : given.dump = true) :
    (answer machine given log).exitCode = 0 ∧
      (answer machine given log).output = emit machine .output (config.pieces ++ [['\n']]) := by
  have shown : show? machine given config = .ok [config.pieces] := by simp [show?, dump]
  simp [answer, loaded, shown]

theorem answer_refused {machine : Machine} {given : CommandLine} {log : Option LogFile}
    {config : Config} {fault : DestinationFault}
    (loaded : load machine given log = .ok config) (noDump : given.dump = false)
    (refused : given.userHost = .error fault) :
    (answer machine given log).exitCode = 1 ∧ (answer machine given log).output = [] := by
  have shown : show? machine given config = .error fault := by simp [show?, noDump, refused]
  simp [answer, loaded, shown]

theorem answer_resolved {machine : Machine} {given : CommandLine} {log : Option LogFile}
    {config : Config} {user : Option Text} {host : Text}
    (loaded : load machine given log = .ok config) (noDump : given.dump = false)
    (named : given.userHost = .ok (user, host)) :
    let resolution := config.resolve { host, user } machine.facts
    (answer machine given log).exitCode = 0 ∧
      (answer machine given log).output =
        emit machine .output (resolution.table.pieces ++ [['\n']]) ++
          if given.matched then emit machine .output (resolution.matchedTable.pieces ++ [['\n']])
          else [] := by
  intro resolution
  have shown : show? machine given config = .ok (resolution.table.pieces ::
      if given.matched then [resolution.matchedTable.pieces] else []) := by
    simp [show?, noDump, named, resolution]
  simp only [answer, loaded, shown]
  cases given.matched <;> simp

/-- The program succeeds exactly if it can load the configuration and there is something to do
with it. -/
theorem answer_exitCode {machine : Machine} {given : CommandLine} {log : Option LogFile} :
    (answer machine given log).exitCode = 0 ↔
      (∃ config, load machine given log = .ok config) ∧
        (given.dump = true ∨
          ∃ destination, given.destination = some destination ∧ hostPart destination ≠ []) := by
  by_cases loads : ∃ config, load machine given log = .ok config
  · obtain ⟨config, loaded⟩ := loads
    cases dump : given.dump with
    | true => exact iff_of_true (answer_dump loaded dump).1 ⟨⟨config, loaded⟩, .inl rfl⟩
    | false =>
        by_cases named : ∃ destination, given.destination = some destination ∧
            hostPart destination ≠ []
        · obtain ⟨destination, present, filled⟩ := named
          have split := userHost_of_destination present
          rw [if_neg filled] at split
          exact iff_of_true (answer_resolved loaded dump split).1
            ⟨⟨config, loaded⟩, .inr ⟨destination, present, filled⟩⟩
        · obtain ⟨fault, refused⟩ := userHost_of_noHost named
          have code := (answer_refused loaded dump refused).1
          have unmet : ¬ (false = true ∨ ∃ destination, given.destination = some destination ∧
              hostPart destination ≠ []) := by simpa using named
          exact iff_of_false (by simp [code]) fun ⟨_, met⟩ => unmet met
  · have code := (answer_failed fun config loaded => loads ⟨config, loaded⟩).1
    exact iff_of_false (by simp [code]) fun ⟨loaded, _⟩ => loads loaded

/-- What the program does with arguments that it accepts once logging is prepared.  It succeeds
exactly if the configuration can be parsed, no log is read in its place, and there is a dump to
make or a host to resolve for.  Then it prints the configuration for a dump, and otherwise the
resolved options, with the blocks that apply if they are asked for.  If it fails it prints nothing
to its output.  A text is printed as it is where colours are shown, or if it has no control
characters; otherwise control characters and control sequences are left out. -/
theorem run_of_accepted {machine : Machine} {arguments : List Text} {given : CommandLine}
    {disk : Disk} {log : Option LogFile} (accepted : CommandLine.read arguments = .ok given)
    (prepared : startLogging machine given = .ok (disk, log)) :
    let started : Machine := { machine with disk }
    let report := run machine arguments
    (report.exitCode = 0 ↔
      (∃ config, Configures started given config) ∧ ¬ ReadsLog started given log ∧
        (given.dump = true ∨
          ∃ destination, given.destination = some destination ∧ hostPart destination ≠ [])) ∧
    (report.exitCode = 0 → ∃ config, Configures started given config ∧
      (given.dump = true → report.output = emit machine .output (config.pieces ++ [['\n']])) ∧
      (given.dump = false → ∃ user host, given.userHost = .ok (user, host) ∧
        let resolution := config.resolve { host, user } machine.facts
        report.output = emit machine .output (resolution.table.pieces ++ [['\n']]) ++
          if given.matched then emit machine .output (resolution.matchedTable.pieces ++ [['\n']])
          else [])) ∧
    (report.exitCode ≠ 0 → report.exitCode = 1 ∧ report.output = []) ∧
    ∀ pieces : List Text,
      ((ShowsColours machine .output ∨ ∀ c ∈ pieces.flatten, Text.isPrinted c = true) →
        emit machine .output (pieces ++ [['\n']]) = pieces.flatten ++ ['\n']) ∧
      (¬ ShowsColours machine .output →
        (emit machine .output pieces).Sublist pieces.flatten ∧
          (∀ c ∈ emit machine .output pieces, Text.isPrinted c = true) ∧
          ∀ texts, List.Forall₂ Text.Strips pieces texts →
            emit machine .output pieces = texts.flatten) := by
  intro started report
  have answered : report = answer started given log := by
    simp only [report, run, accepted, prepared]
    rfl
  rw [answered]
  have loads : (∃ config, load started given log = .ok config) ↔
      (∃ config, Configures started given config) ∧ ¬ ReadsLog started given log := by
    simp [load_eq_ok]
  refine ⟨?succeeds, ?prints, ?fails, fun pieces => ⟨emit_line, emit_plain pieces⟩⟩
  case succeeds => rw [answer_exitCode, loads, and_assoc]
  case prints =>
    intro code
    obtain ⟨⟨config, loaded⟩, toDo⟩ := answer_exitCode.mp code
    refine ⟨config, (load_eq_ok.mp loaded).1, fun dump => (answer_dump loaded dump).2, ?_⟩
    intro noDump
    obtain ⟨destination, present, filled⟩ := toDo.resolve_left (by simp [noDump])
    have split := userHost_of_destination present
    rw [if_neg filled] at split
    exact ⟨_, _, split, (answer_resolved loaded noDump split).2⟩
  case fails =>
    intro failed
    rw [ne_eq, answer_exitCode, not_and] at failed
    by_cases loaded : ∃ config, load started given log = .ok config
    · obtain ⟨noDump, unnamed⟩ := not_or.mp (failed loaded)
      obtain ⟨config, loaded⟩ := loaded
      obtain ⟨fault, refused⟩ := userHost_of_noHost unnamed
      exact answer_refused loaded (by simpa using noDump) refused
    · exact answer_failed fun config known => loaded ⟨config, known⟩

/-- A destination with a user, and the blocks that apply listed too. -/
theorem run_of_accepted_matched :
    let content := "User v\nHost h\nPort 22".toList.map Char.toUInt8
    let machine : Machine :=
      { disk := { files := fun _ => .ok content, isPresent := fun _ => true }
        create := fun _ => .error .notFound
        home := {}
        environment := fun _ => none
        facts := {} }
    let arguments := ["-F", "c", "-m", "u@h"].map String.toList
    let given : CommandLine :=
      { config := some ['c'], matched := true, destination := some "u@h".toList }
    CommandLine.read arguments = .ok given ∧
      startLogging machine given = .ok (machine.disk, none) ∧
      (run machine arguments).exitCode = 0 ∧
      (run machine arguments).output =
        ["┌────────┬───────┐", "│ option │ value │", "├────────┼───────┤", "│ port   │ 22    │",
          "│ user   │ v     │", "└────────┴───────┘",
          "┌────────┬────────────┬─────────┐", "│ block  │ origin     │ options │",
          "├────────┼────────────┼─────────┤", "│ Host h │ c (line 2) │ port=22 │",
          "└────────┴────────────┴─────────┘"].flatMap fun line => line.toList ++ ['\n'] := by
  intro content machine arguments given
  have accepted : CommandLine.read arguments = .ok given := rfl
  have prepared : startLogging machine given = .ok (machine.disk, none) := rfl
  let config : Config :=
    { options := { user := some ['v'] }
      blocks := [⟨.host [⟨['h'], false⟩], ⟨['c'], 2⟩, { port := some 22 }⟩]
      source := ['c'] }
  have parsed : parseFile (surroundings machine) ['c'] = .ok config := rfl
  have configured : Configures machine given config := ⟨some ['c'], .named rfl, parsed⟩
  have unread : ¬ ReadsLog machine given none := by
    rintro ⟨file, path, impossible, -⟩
    cases impossible
  have named : ∃ destination, given.destination = some destination ∧ hostPart destination ≠ [] :=
    ⟨"u@h".toList, rfl, by decide⟩
  obtain ⟨exits, prints, -⟩ := run_of_accepted accepted prepared
  have code : (run machine arguments).exitCode = 0 :=
    exits.mpr ⟨⟨config, configured⟩, unread, .inr named⟩
  obtain ⟨other, ⟨file, chosen, read⟩, -, shown⟩ := prints code
  obtain rfl : some ['c'] = file := chosen.configFile?_eq
  obtain rfl : config = other := Except.ok.inj (parsed.symm.trans read)
  obtain ⟨user, host, split, output⟩ := shown rfl
  obtain ⟨rfl, rfl⟩ : some ['u'] = user ∧ ['h'] = host := by
    have known : given.userHost = .ok (some ['u'], ['h']) := rfl
    simpa using Except.ok.inj (known.symm.trans split)
  refine ⟨accepted, prepared, code, ?_⟩
  rw [output]
  decide +kernel

-- On a terminal that shows colours, the control sequences of a configuration are printed.
example :
    let content := "Host \"\x1b[1mweb\"".toList.map Char.toUInt8
    let machine : Machine :=
      { disk := { files := fun _ => .ok content, isPresent := fun _ => true }
        create := fun _ => .error .notFound
        home := {}
        environment := fun name => if name = terminalVariable then some "xterm".toList else none
        facts := {}
        isTerminal := fun _ => true }
    '\x1b' ∈ (run machine (["-F", "c", "--dump"].map String.toList)).output := by
  decide +kernel

/-- The output need not be the text of the result, as it is without the control sequences that
the configuration has; and a configuration that can be parsed need not be printed, as it is read
after the log was begun, and may include it. -/
theorem run_output_ne_text :
    let machine (files : FileSystem) (environment : String → Option Text) : Machine :=
      { disk := { files, isPresent := fun _ => true }
        create := fun _ => .ok ({ files, isPresent := fun _ => true }, fun path => path == ['l'])
        home := {}
        environment
        facts := {} }
    let escaping := "Host \"\x1b[1mweb\"".toList.map Char.toUInt8
    let dumping := machine (fun _ => .ok escaping) fun _ => none
    let dump : CommandLine := { config := some ['c'], dump := true }
    let including := "Include l\nUser u".toList.map Char.toUInt8
    let logging := machine (fun path => .ok (if path = ['c'] then including else [])) fun name =>
      if name = fileFilterVariable then some "debug".toList else none
    let logged : CommandLine :=
      { config := some ['c'], logFile := some ['l'], destination := some ['x'] }
    CommandLine.read (["-F", "c", "--dump"].map String.toList) = .ok dump ∧
      startLogging dumping dump = .ok (dumping.disk, none) ∧
      (∃ config, parseFile (surroundings dumping) ['c'] = .ok config ∧
        (run dumping (["-F", "c", "--dump"].map String.toList)).output ≠ config.text ++ ['\n']) ∧
      CommandLine.read (["-F", "c", "--log-file", "l", "x"].map String.toList) = .ok logged ∧
      (∃ log, startLogging logging logged = .ok (logging.disk, some log)) ∧
      (∃ config, parseFile (surroundings logging) ['c'] = .ok config) ∧
      hostPart ['x'] ≠ [] ∧
      (run logging (["-F", "c", "--log-file", "l", "x"].map String.toList)).exitCode ≠ 0 := by
  intro machine escaping dumping dump including logging logged
  let config : Config :=
    { blocks := [⟨.host [⟨"\x1b[1mweb".toList, false⟩], ⟨['c'], 1⟩, {}⟩], source := ['c'] }
  have parsed : parseFile (surroundings dumping) ['c'] = .ok config := rfl
  have differs :
      (run dumping (["-F", "c", "--dump"].map String.toList)).output ≠ config.text ++ ['\n'] := by
    have written : '\x1b' ∈ config.text ++ ['\n'] := by decide +kernel
    have unprinted :
        '\x1b' ∉ (run dumping (["-F", "c", "--dump"].map String.toList)).output := by
      decide +kernel
    intro same
    rw [same] at unprinted
    exact unprinted written
  have fails :
      (run logging (["-F", "c", "--log-file", "l", "x"].map String.toList)).exitCode = 1 := rfl
  exact ⟨rfl, rfl, ⟨config, parsed, differs⟩, rfl, ⟨_, rfl⟩, ⟨_, rfl⟩, by decide, by rw [fails]; decide⟩

end SshConfig.CommandLine
