import StringCalculator.Calculation
import StringCalculator.Files

/-!
# The console

A conversation in lines: the console prompts, reads a line, and reports what it is worth, until the
input ends. A line feed cannot be typed inside a line, so `\n` stands for one.

Input comes as bytes and is cut into chunks first, one behind each line feed; only then is each
chunk read as text. A chunk that is not UTF-8 ends the conversation where it stands, behind its
prompt, while an outcome that is a fault is an answer like any other.
-/

namespace StringCalculator

/-! ### Lines -/

/-- A text with a line feed for every backslash that an `n` follows, and without that `n`. -/
def expandChars : List Char → List Char
  | '\\' :: 'n' :: s => '\n' :: expandChars s
  | c :: s => c :: expandChars s
  | [] => []

/-- A typed line as the text it stands for. -/
def expand (line : String) : String :=
  String.ofList (expandChars line.toList)

/-- Whether a character may end a line. -/
def isLineEnd (c : Char) : Bool :=
  c == '\n' || c == '\r'

/-- A text without the line ends behind it, however many there are. -/
def dropLineEnds (s : String) : String :=
  String.ofList (s.toList.reverse.dropWhile isLineEnd).reverse

/-- The byte that ends a chunk. -/
def lineFeed : UInt8 := 10

/-- The input cut behind each line feed. Nothing is lost, and no chunk is empty. -/
def chunks : List UInt8 → List (List UInt8)
  | [] => []
  | b :: bs =>
    if b = lineFeed then [b] :: chunks bs
    else
      match chunks bs with
      | [] => [[b]]
      | chunk :: rest => (b :: chunk) :: rest

/-! ### Answers -/

/-- How an outcome is put to the user. Negative numbers are the user's mistake; other faults only
show during the calculation. -/
def report : Except Fault Evaluation → String
  | .ok e => e.equation
  | .error (.negatives values) => "Argument error: " ++ (Fault.negatives values).message
  | .error f => "Unexpected error: " ++ f.message

/-- The outcome of a typed line. -/
def Configuration.calculateLine (c : Configuration) (line : String) : Except Fault Evaluation :=
  c.calculate (expand line)

/-- What a typed line is answered with. -/
structure Reply where
  /-- The outcome of the line. -/
  outcome : Except Fault Evaluation

/-- The words of a reply. -/
def Reply.text (r : Reply) : String :=
  report r.outcome

instance : Coe Reply String :=
  ⟨Reply.text⟩

/-- The reply to a typed line. -/
def Configuration.reply (c : Configuration) (line : String) : Reply :=
  ⟨c.calculateLine line⟩

theorem Configuration.text_reply (c : Configuration) (line : String) :
    (c.reply line).text = report (c.calculateLine line) :=
  rfl

/-- What is answered to a chunk of input, if it is text. -/
def Configuration.answer? (c : Configuration) (chunk : List UInt8) : Option String :=
  (decode? chunk).map fun s ↦ (c.reply (dropLineEnds s) : String)

/-! ### The conversation -/

namespace Console

/-- What the console begins with. -/
def opening : String :=
  "--- String Calculator Console ---\n" ++
    "Enter the string of numbers (or press Ctrl+D to exit):\n"

/-- What the console asks for a line with. -/
def prompt : String :=
  "> "

/-- How a conversation ended. -/
inductive Ending where
  /-- The input came to its end. -/
  | complete
  /-- A chunk of the input was not UTF-8. -/
  | notText
deriving DecidableEq

/-- What is written behind the last prompt. -/
def Ending.text : Ending → String
  | complete => "\n"
  | notText => ""

/-- What a prompt brings: the line that answers the next chunk of the input, or the end of the
conversation if there is no chunk left or it is not text. -/
def turn (c : Configuration) : Option (List UInt8) → Except Ending String
  | none => .error .complete
  | some chunk =>
    match c.answer? chunk with
    | none => .error .notText
    | some answer => .ok (answer ++ "\n")

end Console

/-- What the console has written in a conversation. -/
structure Transcript where
  /-- Everything that was written. -/
  output : String
  /-- How the conversation ended. -/
  ending : Console.Ending
deriving DecidableEq

namespace Console

/-- The end of a conversation, from its last prompt on. -/
def close (ending : Ending) : Transcript :=
  ⟨prompt ++ ending.text, ending⟩

/-- The conversation over the chunks of an input, behind the opening. -/
def converse (c : Configuration) : List (List UInt8) → Transcript
  | [] => close .complete
  | chunk :: rest =>
    match turn c (some chunk) with
    | .error ending => close ending
    | .ok line =>
      let later := converse c rest
      ⟨prompt ++ line ++ later.output, later.ending⟩

/-- The conversation over an input. -/
def transcript (c : Configuration) (input : List UInt8) : Transcript :=
  let conversation := converse c (chunks input)
  ⟨opening ++ conversation.output, conversation.ending⟩

/-- A conversation is held turn by turn: each turn is about the next chunk, if there is one, and
either ends the conversation or comes before what is left of it. -/
theorem converse_eq_of_turn (c : Configuration) (cs : List (List UInt8)) :
    converse c cs =
      match turn c cs.head? with
      | .error ending => close ending
      | .ok line =>
        ⟨prompt ++ line ++ (converse c cs.tail).output, (converse c cs.tail).ending⟩ := by
  match cs with
  | [] => rfl
  | _ :: _ => rfl

end Console

end StringCalculator
