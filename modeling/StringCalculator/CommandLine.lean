/-!
# The command line

What the words behind the program's name ask for. A command may be named, `repl` or `eval`; without
one the console opens. The options `--config FILE` and `--watch` may stand before the command and
behind it, on each side once, and behind it they win.

The words are read one after the other, and what a word means depends on what has been read:

* the value of `--config` may be glued to it with `=` or follow as a word of its own, which must not
  be empty and must not look like an option;
* `eval` takes one input, and as long as it has none, a word that only looks like an option, without
  being one, is taken for a value: `-4,3` is an input, and so is `--5`;
* behind `--` nothing is an option any more.

Help is given as soon as it is asked for.
-/

namespace StringCalculator

/-- What the program is to do. -/
inductive Command where
  /-- Hold a conversation. -/
  | converse
  /-- Calculate one input, and write the outcome as JSON if asked. -/
  | calculate (input : String) (json : Bool)
deriving DecidableEq

/-- A command with its options. -/
structure Invocation where
  /-- The settings file asked for. -/
  settingsPath : Option String
  /-- Whether to take over changes of the settings file. -/
  watch : Bool
  /-- The command. -/
  command : Command
deriving DecidableEq

/-- What a command line asks for. -/
inductive Request where
  /-- The usage of the program. -/
  | help
  /-- A command. -/
  | run (invocation : Invocation)
deriving DecidableEq

/-- Why a command line cannot be followed. -/
inductive UsageError where
  /-- A word that means nothing where it stands. -/
  | unexpected (word : String)
  /-- An option that was given before. -/
  | repeated (option : String)
  /-- An option without the value it needs. -/
  | missingValue (option : String)
  /-- An option with a value it does not take. -/
  | unwantedValue (option : String)
  /-- The input to calculate is missing. -/
  | missingInput
deriving DecidableEq

/-- What is said about a command line that cannot be followed. -/
def UsageError.message : UsageError → String
  | unexpected word => "unexpected argument '" ++ word ++ "' found"
  | repeated option => "the argument '" ++ option ++ "' cannot be used multiple times"
  | missingValue option => "a value is required for '" ++ option ++ "' but none was supplied"
  | unwantedValue option => "no value is taken by '" ++ option ++ "'"
  | missingInput => "the following required arguments were not provided: <INPUT>"

namespace CommandLine

/-- How the program is used. -/
def usage : String :=
  "A calculator for numbers between delimiters\n\n" ++
    "Usage: [OPTIONS] [COMMAND]\n\n" ++
    "Commands:\n" ++
    "  repl          Answer the input line by line (this is the default)\n" ++
    "  eval <INPUT>  Answer one input, in which \\n stands for a line feed\n" ++
    "  help          Show this text\n\n" ++
    "Options:\n" ++
    "      --config <FILE>  Take the settings from this file\n" ++
    "      --watch          Take over changes of the settings file\n" ++
    "      --json           Write the answer as JSON (for eval)\n" ++
    "  -h, --help           Show this text\n"

/-- The part of the command line a word stands in. -/
inductive Part where
  /-- Before any command. -/
  | front
  /-- Behind `repl`. -/
  | repl
  /-- Behind `eval`. -/
  | eval
deriving DecidableEq

/-- The options that may stand in every part. -/
structure Options where
  /-- The settings file. -/
  settingsPath : Option String := none
  /-- Whether changes are watched. -/
  watch : Bool := false

/-- What has been read so far. -/
structure Progress where
  /-- The part the next word stands in. -/
  part : Part := .front
  /-- The options of the part before the command. -/
  front : Options := {}
  /-- The options of this part. -/
  own : Options := {}
  /-- Whether `--json` was given. -/
  json : Bool := false
  /-- The input of `eval`. -/
  input : Option String := none

/-- What a word looks like. -/
inductive Word where
  /-- The two dashes behind which nothing is an option. -/
  | separator
  /-- The option for the settings file, and the value glued to it. -/
  | config (value : Option String)
  /-- The option to watch changes. -/
  | watch
  /-- The option to write JSON. -/
  | json
  /-- The option to give help. -/
  | help
  /-- An option that takes no value, with one. -/
  | flagWithValue (option : String)
  /-- A word that begins like an option and is none. -/
  | dashed
  /-- Any other word. -/
  | plain

namespace Progress

/-- Whether a word that begins like an option and is none may be a value. -/
def takesDashed (p : Progress) : Bool :=
  p.part == .eval && p.input.isNone

/-- What two dashes and a name, with or without a value glued to it, mean. -/
def longOption (p : Progress) (name : String) (value : Option String) : Word :=
  if name = "config" then .config value
  else if name = "watch" then if value.isNone then .watch else .flagWithValue "--watch"
  else if name = "help" then if value.isNone then .help else .flagWithValue "--help"
  else if name = "json" ∧ p.part = .eval then
    if value.isNone then .json else .flagWithValue "--json"
  else .dashed

/-- What one dash and some letters mean. The only option of one letter is the one for help; any
letter behind it is another option, unless the word may be a value. -/
def shortOption (p : Progress) (letters : List Char) : Word :=
  if letters.all (· == 'h') then .help
  else if !p.takesDashed && letters.head? == some 'h' then .help
  else .dashed

/-- What a word looks like where it stands. -/
def classify (p : Progress) (word : String) : Word :=
  match word.toList with
  | ['-'] => .plain
  | ['-', '-'] => .separator
  | '-' :: '-' :: s =>
    let value :=
      match s.dropWhile (· != '=') with
      | [] => none
      | _ :: v => some (String.ofList v)
    p.longOption (String.ofList (s.takeWhile (· != '='))) value
  | '-' :: s => p.shortOption s
  | _ => .plain

/-- Whether a word may be the value of the option before it. -/
def isValue (p : Progress) (word : String) : Bool :=
  match p.classify word with
  | .plain => true
  | .dashed => p.takesDashed
  | _ => false

/-- Takes the settings file. -/
def setConfig (p : Progress) (value : String) : Except UsageError Progress :=
  if value.isEmpty then .error (.missingValue "--config")
  else if p.own.settingsPath.isSome then .error (.repeated "--config")
  else .ok { p with own := { p.own with settingsPath := some value } }

/-- Takes the option to watch changes. -/
def setWatch (p : Progress) : Except UsageError Progress :=
  if p.own.watch then .error (.repeated "--watch")
  else .ok { p with own := { p.own with watch := true } }

/-- Takes the option to write JSON. -/
def setJson (p : Progress) : Except UsageError Progress :=
  if p.json then .error (.repeated "--json") else .ok { p with json := true }

/-- Takes a word for the input of `eval`. -/
def setInput (p : Progress) (word : String) : Except UsageError Progress :=
  if p.takesDashed then .ok { p with input := some word } else .error (.unexpected word)

/-- Goes on behind a command. -/
def enter (p : Progress) (part : Part) : Progress :=
  { part := part, front := p.own }

/-- The request, when there are no more words. -/
def finish (p : Progress) : Except UsageError Request :=
  let invoke (command : Command) : Request :=
    .run
      { settingsPath := p.own.settingsPath <|> p.front.settingsPath
        watch := p.own.watch || p.front.watch
        command := command }
  match p.part, p.input with
  | .eval, some input => .ok (invoke (.calculate input p.json))
  | .eval, none => .error .missingInput
  | _, _ => .ok (invoke .converse)

/-- Takes the words behind the separator. -/
def takePlain (p : Progress) : List String → Except UsageError Request
  | [] => p.finish
  | word :: rest =>
    match p.setInput word with
    | .ok p => p.takePlain rest
    | .error e => .error e

/-- What asking for help as a command means: help for a command that exists. -/
def helpFor : List String → Except UsageError Request
  | [] => .ok .help
  | word :: rest =>
    if (word = "repl" ∨ word = "eval" ∨ word = "help") ∧ rest.isEmpty then .ok .help
    else .error (.unexpected word)

/-- Takes one word after the other. -/
def take (p : Progress) : List String → Except UsageError Request
  | [] => p.finish
  | word :: rest =>
    match p.classify word with
    | .separator => p.takePlain rest
    | .help => .ok .help
    | .flagWithValue option => .error (.unwantedValue option)
    | .config (some value) =>
      match p.setConfig value with
      | .ok p => p.take rest
      | .error e => .error e
    | .config none =>
      match rest with
      | [] => .error (.missingValue "--config")
      | value :: rest =>
        if p.isValue value then
          match p.setConfig value with
          | .ok p => p.take rest
          | .error e => .error e
        else .error (.missingValue "--config")
    | .watch =>
      match p.setWatch with
      | .ok p => p.take rest
      | .error e => .error e
    | .json =>
      match p.setJson with
      | .ok p => p.take rest
      | .error e => .error e
    | .dashed =>
      match p.setInput word with
      | .ok p => p.take rest
      | .error e => .error e
    | .plain =>
      if p.part = .front then
        if word = "repl" then (p.enter .repl).take rest
        else if word = "eval" then (p.enter .eval).take rest
        else if word = "help" then helpFor rest
        else .error (.unexpected word)
      else
        match p.setInput word with
        | .ok p => p.take rest
        | .error e => .error e

end Progress

/-- What a command line asks for. -/
def read (words : List String) : Except UsageError Request :=
  ({} : Progress).take words

end CommandLine

end StringCalculator
