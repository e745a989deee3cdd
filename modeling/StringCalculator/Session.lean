import StringCalculator.Console
import StringCalculator.Settings

/-!
# Sessions

A configuration that changes while it is used. A session has one current configuration; it is
replaced as a whole or not at all, and whoever calculates does so under the one that is current at
that moment, or under one that was kept before. As configurations are values, keeping one is all it
takes to be safe from later changes.
-/

namespace StringCalculator

/-- The current configuration, and the ones kept under names. -/
structure Session where
  /-- The configuration in force. -/
  current : Configuration
  /-- The configurations kept so far, latest first. -/
  kept : List (String × Configuration) := []

namespace Session

/-- Something that is done in a session. -/
inductive Step where
  /-- Nothing. -/
  | look
  /-- A new configuration comes into force, without its empty delimiters if asked. -/
  | adopt (new : Configuration) (dropEmpty : Bool)
  /-- The settings file, which now reads like this, is read again. -/
  | refresh (contents : Contents)
  /-- The current configuration is kept under a name. -/
  | keep (name : String)
  /-- A text is calculated. -/
  | calculate (text : String)
  /-- A text is calculated under a configuration that was kept. -/
  | calculateKept (name : String) (text : String)
  /-- A line is answered. -/
  | line (line : String)
  /-- A whole conversation is held. -/
  | converse (input : List UInt8)

/-- What comes of a step. -/
inductive Answer where
  /-- Nothing to tell. -/
  | silent
  /-- Whether the settings file was good. -/
  | refreshed (taken : Bool)
  /-- The outcome of a text, with and without the operands. -/
  | outcome (traced : Except Fault Evaluation) (value : Except Fault Number)
  /-- The kept configuration and the outcome under it, if one was kept under that name. -/
  | keptOutcome (kept : Option (Configuration × Except Fault Evaluation))
  /-- The reply to a line, which has its outcome. -/
  | reported (reply : Reply)
  /-- A conversation. -/
  | conversation (transcript : Transcript)

/-- The configuration kept last under a name. -/
def kept? (s : Session) (name : String) : Option Configuration :=
  s.kept.lookup name

/-- The session after a step. Only a new configuration or a good settings file changes the current
configuration. -/
def next (s : Session) : Step → Session
  | .adopt new dropEmpty =>
    { s with current := if dropEmpty then new.withoutEmptyDelimiters else new }
  | .refresh contents => { s with current := s.current.refresh contents }
  | .keep name => { s with kept := (name, s.current) :: s.kept }
  | _ => s

/-- What a step gives. -/
def answer (s : Session) : Step → Answer
  | .look => .silent
  | .adopt _ _ => .silent
  | .refresh contents => .refreshed (Settings.ofContents contents).isOk
  | .keep _ => .silent
  | .calculate text => .outcome (s.current.calculate text) (s.current.value text)
  | .calculateKept name text => .keptOutcome ((s.kept? name).map fun c ↦ (c, c.calculate text))
  | .line line => .reported (s.current.reply line)
  | .converse input => .conversation (Console.transcript s.current input)

/-- The session after a row of steps. -/
def after (s : Session) (steps : List Step) : Session :=
  steps.foldl next s

/-- What each of a row of steps gives, with the configuration that is current behind it. -/
def run (s : Session) : List Step → List (Answer × Configuration)
  | [] => []
  | step :: steps => (s.answer step, (s.next step).current) :: (s.next step).run steps

end Session

end StringCalculator
