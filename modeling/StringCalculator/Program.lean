import StringCalculator.CommandLine
import StringCalculator.Session

/-!
# The program

One run of the program from its command line, its input and the files around it to what it writes
and the status it ends with.

The settings are chosen before anything else is done, so a settings file with a defect stops every
command. A calculation that fails is a failed run; in a conversation it is an answer.

No file changes during a run as it is described here, so watching the settings file makes no
difference.
-/

namespace StringCalculator

/-- What a run leaves behind. -/
structure Report where
  /-- The status it ends with. -/
  exit : Nat
  /-- What it writes. -/
  output : String
  /-- The line it complains with. -/
  complaint : Option String
deriving DecidableEq

namespace Report

/-- The report of a run that succeeds. -/
def success (output : String) : Report :=
  ⟨0, output, none⟩

/-- The report of a run that fails for a stated reason. -/
def failure (output reason : String) : Report :=
  ⟨1, output, some ("Error: " ++ reason)⟩

end Report

namespace Program

/-- A single calculation. -/
def calculate (c : Configuration) (input : String) (json : Bool) : Report :=
  match c.calculateLine input with
  | .ok e => .success ((if json then e.toWideJsonText else e.equation) ++ "\n")
  | .error f => .failure "" f.message

/-- The report of a run that has written this when its conversation ends. -/
def conclude (output : String) : Console.Ending → Report
  | .complete => .success output
  | .notText => .failure output notTextMessage

/-- A whole conversation. -/
def converse (c : Configuration) (input : List UInt8) : Report :=
  let t := Console.transcript c input
  conclude t.output t.ending

/-- The settings of a command, or the report of a run that ends for lack of them. -/
def settings (files : Files) (i : Invocation) : Except Report Settings :=
  (Settings.choose files i.settingsPath).mapError fun e ↦ .failure "" e.message

/-- A command with its options. -/
def invoke (files : Files) (input : List UInt8) (i : Invocation) : Report :=
  match settings files i with
  | .error report => report
  | .ok settings =>
    match i.command with
    | .converse => converse settings.configuration input
    | .calculate text json => calculate settings.configuration text json

/-- A run. -/
def run (files : Files) (input : List UInt8) (words : List String) : Report :=
  match CommandLine.read words with
  | .error e => ⟨2, "", some ("error: " ++ e.message)⟩
  | .ok .help => .success CommandLine.usage
  | .ok (.run i) => invoke files input i

end Program

end StringCalculator
