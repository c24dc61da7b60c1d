import SshConfig.Interpretation

namespace SshConfig

/-! A session: texts and single directives carried out one after the other on the same
draft. -/

/-- An interpretation that can be gone on with.  Its place and depth stay as they are
from step to step. -/
structure Session where
  surroundings : Surroundings
  place : Place
  /-- How many files enclose the texts of the session. -/
  depth : Nat := 0
  draft : Draft := {}

namespace Session

/-- How the files that the session's texts include are interpreted, if any may be. -/
def nested (session : Session) : Option Interpretation :=
  match includeLimit - session.depth with
  | 0 => none
  | levels + 1 => some (interpret session.surroundings levels)

/-- The session after a step with the given outcome. -/
def after (session : Session) (outcome : Outcome) : Session × Option Failure :=
  ({ session with draft := outcome.draft }, outcome.failure)

/-- Interprets a text, whose lines are counted from one. -/
def parse (session : Session) (text : Text) : Session × Option Failure :=
  session.after (interpretAt session.surroundings session.depth session.place text
    session.draft)

/-- Carries out a keyword with arguments as if they stood on the given line. -/
def dispatch (session : Session) (keyword : Keyword) (arguments : List Text)
    (line : Nat) : Session × Option Failure :=
  session.after (SshConfig.dispatch session.surroundings session.nested session.place line
    keyword arguments session.draft)

/-- What a session can be asked for. -/
inductive Step where
  | parse (text : Text)
  | dispatch (keyword : Keyword) (arguments : List Text) (line : Nat)
deriving DecidableEq, Repr

/-- Takes one step. -/
def perform (session : Session) : Step → Session × Option Failure
  | .parse text => session.parse text
  | .dispatch keyword arguments line => session.dispatch keyword arguments line

/-- The session after steps.  A step that fails is followed by the next all the same. -/
def run (session : Session) : List Step → Session
  | [] => session
  | step :: rest => (session.perform step).1.run rest

/-- Whether none of the steps fails. -/
def Succeeds (session : Session) : List Step → Prop
  | [] => True
  | step :: rest =>
      (session.perform step).2 = none ∧ (session.perform step).1.Succeeds rest

/-- A session in which nothing was read yet. -/
def fresh (surroundings : Surroundings) (place : Place) (depth : Nat) (source : Text) :
    Session where
  surroundings
  place
  depth
  draft := { config := { source } }

/-- Parsing carries out the lines of the text with the nesting of the session. -/
theorem interpretAt_eq_interpretLines (session : Session) (text : Text) :
    interpretAt session.surroundings session.depth session.place text session.draft =
      interpretLines session.surroundings session.nested session.place 1
        (Text.lines text) session.draft := by
  unfold interpretAt nested
  cases includeLimit - session.depth <;> rfl

end Session

end SshConfig
