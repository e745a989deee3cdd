import StringCalculator.Program

/-!
# The executable

The outer layer: it reads the settings file and the standard input, writes what the library answers,
and decides nothing. A conversation is held turn by turn, so that every line is answered as soon as
it is typed; if the settings file is watched it is read again before each answer.
-/

namespace StringCalculator.Main

/-- The number of a system error without its sign: some calls report it negated. -/
def unsigned (code : UInt32) : Nat :=
  min code.toNat (-code).toNat

/-- The read error that a failed system call stands for. -/
def readError (e : IO.Error) : ReadError :=
  match e with
  | .noFileOrDirectory _ code details => .ofCode (unsigned code) details
  | .permissionDenied _ code details => .ofCode (unsigned code) details
  | .resourceExhausted _ code details => .ofCode (unsigned code) details
  | .inappropriateType _ code details => .ofCode (unsigned code) details
  | .invalidArgument _ code details => .ofCode (unsigned code) details
  | .otherError code details => .ofCode (unsigned code) details
  | e => .other (toString e)

/-- What reading a path of the disk gives. -/
def readDisk (path : String) : IO Contents := do
  try
    return .ok (← IO.FS.readBinFile path).toList
  catch e =>
    return .error (readError e)

/-- The disk as far as one path is concerned, which is all that a run asks for. -/
def diskAt (path : String) : IO Files := do
  let contents ← readDisk path
  let holds := match contents with
    | .error .missing => false
    | _ => true
  return ⟨fun _ ↦ contents, fun _ ↦ holds⟩

/-- The next chunk of the input, behind bytes of it that have been read, latest first; there is none
if nothing is left. One byte is asked for at a time, since asking for more would wait for more than
a line. -/
partial def nextChunk? (input : IO.FS.Stream) (read : List UInt8) : IO (Option (List UInt8)) := do
  match (← input.read 1).toList with
  | [] => return if read.isEmpty then none else some read.reverse
  | b :: _ =>
    let read := b :: read
    if b == lineFeed then return some read.reverse else nextChunk? input read

/-- The configuration a watched settings file gives by now. -/
def current (c : Configuration) (watched : Option String) : IO Configuration := do
  match watched with
  | some path => return c.refresh (← readDisk path)
  | none => return c

/-- The conversation behind the opening, one turn after the other. -/
partial def converse (input output : IO.FS.Stream) (c : Configuration)
    (watched : Option String) : IO Console.Ending := do
  output.putStr Console.prompt
  output.flush
  let chunk? ← nextChunk? input []
  let c ← current c watched
  match Console.turn c chunk? with
  | .error ending =>
    output.putStr ending.text
    return ending
  | .ok line =>
    output.putStr line
    converse input output c watched

/-- Writes a report and gives the status to end with. -/
def deliver (r : Report) : IO UInt32 := do
  let output ← IO.getStdout
  output.putStr r.output
  output.flush
  match r.complaint with
  | some line => (← IO.getStderr).putStr (line ++ "\n")
  | none => pure ()
  return r.exit.toUInt32

/-- Holds a conversation with the user. What it writes has been written when it ends. -/
def talk (files : Files) (i : Invocation) : IO UInt32 := do
  match Program.settings files i with
  | .error report => deliver report
  | .ok settings =>
    let output ← IO.getStdout
    output.putStr Console.opening
    let watched := if i.watch then settings.path else none
    deliver (Program.conclude "" (← converse (← IO.getStdin) output settings.configuration watched))

/-- One run of the program. -/
def start (words : List String) : IO UInt32 := do
  match CommandLine.read words with
  | .ok (.run i) =>
    let files ← diskAt (i.settingsPath.getD Settings.defaultPath)
    match i.command with
    | .converse => talk files i
    | .calculate _ _ => deliver (Program.invoke files [] i)
  | _ => deliver (Program.run ⟨fun _ ↦ .error .missing, fun _ ↦ false⟩ [] words)

end StringCalculator.Main

/-- The entry point. -/
def main (words : List String) : IO UInt32 :=
  StringCalculator.Main.start words
