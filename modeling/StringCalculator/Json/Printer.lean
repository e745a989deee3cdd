import StringCalculator.Json.Token

/-!
# Writing JSON

A value is written as its tokens. The compact form puts nothing between them. The wide form puts
every element and every member on a line of its own, two blanks deeper than the line its container
begins on, and a blank behind each colon; a container with nothing in it stays on one line.
-/

namespace StringCalculator.Json

/-! ### Compact form -/

mutual

/-- The tokens a value is written with. -/
def tokens : Json → List Token
  | null => [.null]
  | bool b => [.bool b]
  | integer n => [.integer n]
  | decimal => [.decimal]
  | string s => [.string s]
  | array elements => .openArray :: elementTokens elements ++ [.closeArray]
  | object members => .openObject :: memberTokens members ++ [.closeObject]

/-- The tokens between the brackets of an array. -/
def elementTokens : List Json → List Token
  | [] => []
  | [v] => tokens v
  | v :: w :: vs => tokens v ++ .comma :: elementTokens (w :: vs)

/-- The tokens between the braces of an object. -/
def memberTokens : List (Option String × Json) → List Token
  | [] => []
  | [(name, v)] => .string name :: .colon :: tokens v
  | (name, v) :: m :: ms => .string name :: .colon :: tokens v ++ .comma :: memberTokens (m :: ms)

end

/-- The compact text of a value. -/
def compact (v : Json) : String :=
  String.ofList ((tokens v).flatMap Token.text)

/-! ### Wide form -/

/-- A line feed, and the blanks a line of a given depth begins with. -/
def newLine (depth : Nat) : List Char :=
  '\n' :: List.replicate (2 * depth) ' '

mutual

/-- The wide text of a value that begins on a line of a given depth. -/
def wideText (depth : Nat) : Json → List Char
  | array (v :: vs) =>
    Token.openArray.text ++ newLine (depth + 1) ++ wideElements (depth + 1) (v :: vs) ++
      newLine depth ++ Token.closeArray.text
  | object (m :: ms) =>
    Token.openObject.text ++ newLine (depth + 1) ++ wideMembers (depth + 1) (m :: ms) ++
      newLine depth ++ Token.closeObject.text
  | v => (tokens v).flatMap Token.text

/-- The elements of an array, each on a line of a given depth. -/
def wideElements (depth : Nat) : List Json → List Char
  | [] => []
  | [v] => wideText depth v
  | v :: w :: vs =>
    wideText depth v ++ Token.comma.text ++ newLine depth ++ wideElements depth (w :: vs)

/-- The members of an object, each on a line of a given depth. -/
def wideMembers (depth : Nat) : List (Option String × Json) → List Char
  | [] => []
  | [(name, v)] =>
    (Token.string name).text ++ Token.colon.text ++ [' '] ++ wideText depth v
  | (name, v) :: m :: ms =>
    (Token.string name).text ++ Token.colon.text ++ [' '] ++ wideText depth v ++
      Token.comma.text ++ newLine depth ++ wideMembers depth (m :: ms)

end

/-- The wide text of a value. -/
def wide (v : Json) : String :=
  String.ofList (wideText 0 v)

end StringCalculator.Json
