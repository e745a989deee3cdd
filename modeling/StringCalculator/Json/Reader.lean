import StringCalculator.Json.Token

/-!
# Reading JSON

The grammar of JSON over tokens, as a machine that takes one token at a time. The machine keeps the
containers that are open around the next token, innermost first, and knows what may come next; a
token that may not come stops it for good. So nesting costs stack space in the data and none in the
recursion, there is no bound on depth, and reading a list of tokens is a plain fold.

A text is well formed exactly when it scans and the machine ends with one value and nothing open.
-/

namespace StringCalculator.Json

/-- An open container around the value that is read next, with what it holds so far, latest
first. -/
inductive Frame where
  /-- An array. -/
  | elements (before : List Json)
  /-- An object, and the name of the member whose value is read. -/
  | members (before : List (Option String × Json)) (name : Option String)

/-- What may come next, and the containers that are open. -/
inductive Reading where
  /-- A value. -/
  | value (frames : List Frame)
  /-- The first element of an array, or its end. -/
  | firstElement (frames : List Frame)
  /-- The name of the first member of an object, or its end. -/
  | firstName (frames : List Frame)
  /-- The name of a later member. -/
  | laterName (before : List (Option String × Json)) (frames : List Frame)
  /-- The colon behind a name. -/
  | colon (before : List (Option String × Json)) (name : Option String) (frames : List Frame)
  /-- A comma between elements, or the end of the array. -/
  | afterElement (before : List Json) (frames : List Frame)
  /-- A comma between members, or the end of the object. -/
  | afterMember (before : List (Option String × Json)) (frames : List Frame)
  /-- Nothing: the value is complete. -/
  | done (result : Json)

namespace Reading

/-- Puts a complete value into the innermost container. -/
def deliver (v : Json) : List Frame → Reading
  | [] => done v
  | .elements before :: frames => afterElement (v :: before) frames
  | .members before name :: frames => afterMember ((name, v) :: before) frames

/-- Takes a token that begins a value. -/
def begin? (frames : List Frame) : Token → Option Reading
  | .openArray => some (firstElement frames)
  | .openObject => some (firstName frames)
  | .null => some (deliver .null frames)
  | .bool b => some (deliver (.bool b) frames)
  | .integer n => some (deliver (.integer n) frames)
  | .decimal => some (deliver .decimal frames)
  | .string s => some (deliver (.string s) frames)
  | _ => none

/-- Takes one token, if it may come. -/
def step? : Reading → Token → Option Reading
  | value frames, t => begin? frames t
  | firstElement frames, .closeArray => some (deliver (.array []) frames)
  | firstElement frames, t => begin? (.elements [] :: frames) t
  | firstName frames, .closeObject => some (deliver (.object []) frames)
  | firstName frames, .string s => some (colon [] s frames)
  | laterName before frames, .string s => some (colon before s frames)
  | colon before s frames, .colon => some (value (.members before s :: frames))
  | afterElement before frames, .comma => some (value (.elements before :: frames))
  | afterElement before frames, .closeArray => some (deliver (.array before.reverse) frames)
  | afterMember before frames, .comma => some (laterName before frames)
  | afterMember before frames, .closeObject => some (deliver (.object before.reverse) frames)
  | _, _ => none

/-- The value, once it is complete. -/
def result? : Reading → Option Json
  | done v => some v
  | _ => none

end Reading

/-- The value that a list of tokens makes up. -/
def ofTokens? (ts : List Token) : Option Json :=
  (ts.foldlM Reading.step? (.value [])).bind Reading.result?

/-- The value of a JSON text, if it is one. -/
def ofText? (text : String) : Option Json :=
  (Token.scan? text.toList).bind ofTokens?

end StringCalculator.Json
