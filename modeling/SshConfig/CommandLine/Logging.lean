import SshConfig.CommandLine.LogFilter
import SshConfig.Journal

namespace SshConfig.CommandLine

/-! Logging: which events go to the log file, and what that does to a configuration that
the log file is part of.

The text of a logged event begins with the time.  No line of a configuration begins like
that, so a log file with anything in it cannot be interpreted beyond its first line.
-/

/-- A log file.  It is empty at first. -/
structure LogFile where
  filter : LogFilter
  /-- Whether a path leads to the log file. -/
  isAt : Path → Bool

namespace LogFile

/-- Whether an event of an interpretation is logged.  Filters know these events by the
part of the program that they come from. -/
def records (log : LogFile) (event : Event) : Bool :=
  match event with
  | .unknownKeyword => log.filter.admits "sshcfg::config::files".toList .trace
  | .inclusion _ => log.filter.admits "sshcfg::config::keywords".toList .debug

/-- Whether it is logged that a default configuration file is not present. -/
def recordsAbsence (log : LogFile) : Bool :=
  log.filter.admits "sshcfg::cli::cli_main".toList .trace

/-- Whether it is logged that the home directory is not known. -/
def recordsUnknownHome (log : LogFile) : Bool :=
  log.filter.admits "sshcfg::cli::cli_main".toList .warn

/-- The failure of interpreting a log file with anything in it. -/
def firstLineFailure : Failure :=
  (Failure.ofCause (.line .noKeyword)).within (.line 1)

/-- The failure where a journal comes to include the log file when something stands in it
already, if that happens. -/
def failureWithin? (log : LogFile) (isWritten : Bool) : Journal → Option Failure
  | [] => none
  | entry :: rest =>
      let isWritten := isWritten || log.records entry.event
      match entry.event with
      | .inclusion path =>
          if isWritten && log.isAt path then
            some ((entry.route ++ [Layer.file path]).foldr Failure.within firstLineFailure)
          else failureWithin? log isWritten rest
      | .unknownKeyword => failureWithin? log isWritten rest

end LogFile

/-- Parses the file at a path while events are logged.  The surroundings have the log file
as it is at first; `isWritten` says whether something was logged before. -/
def parseLogged (log : LogFile) (isWritten : Bool) (surroundings : Surroundings)
    (path : Path) : Except Failure Config :=
  if isWritten && log.isAt path then .error LogFile.firstLineFailure
  else
    match log.failureWithin? isWritten (fileJournal surroundings path) with
    | some failure => .error failure
    | none => parseFile surroundings path

/-- Nothing is found in a log file to which nothing is written. -/
theorem LogFile.failureWithin?_of_silent {log : LogFile}
    (silent : ∀ event, log.records event = false) (journal : Journal) :
    log.failureWithin? false journal = none := by
  induction journal with
  | nil => rfl
  | cons entry rest induction =>
      obtain ⟨route, event⟩ := entry
      cases event <;> simp [failureWithin?, silent, induction]

/-- As long as nothing is logged, the log file is a file like others. -/
theorem parseLogged_of_silent {log : LogFile} (silent : ∀ event, log.records event = false)
    (surroundings : Surroundings) (path : Path) :
    parseLogged log false surroundings path = parseFile surroundings path := by
  simp [parseLogged, LogFile.failureWithin?_of_silent silent]

end SshConfig.CommandLine
