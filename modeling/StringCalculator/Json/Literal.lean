/-!
# String literals

The inside of a JSON string literal. A character may be written as it is, unless it is a quote, a
backslash or a control character, or as an escape. An escape `\u` with four digits gives a code unit
of 16 bits, and two of them in the surrogate ranges make one character together.

Reading therefore takes two steps: first the code units up to the closing quote, where a character
written as it is counts as one unit however large it is; then the joining of surrogates. The first
step fails if the literal is malformed, the second if a surrogate has no partner. A literal of the
second kind is well formed all the same, so the two failures are kept apart.
-/

namespace StringCalculator.Json.Literal

/-- The value of a hexadecimal digit. -/
def hexDigit? (c : Char) : Option Nat :=
  if '0' ≤ c ∧ c ≤ '9' then some (c.toNat - '0'.toNat)
  else if 'a' ≤ c ∧ c ≤ 'f' then some (c.toNat - 'a'.toNat + 10)
  else if 'A' ≤ c ∧ c ≤ 'F' then some (c.toNat - 'A'.toNat + 10)
  else none

/-- The code unit that four hexadecimal digits spell. -/
def unit? (a b c d : Char) : Option Nat :=
  match hexDigit? a, hexDigit? b, hexDigit? c, hexDigit? d with
  | some a, some b, some c, some d => some (((a * 16 + b) * 16 + c) * 16 + d)
  | _, _, _, _ => none

/-- The character that a backslash and one letter stand for. -/
def shortEscape? : Char → Option Char
  | '"' => some '"'
  | '\\' => some '\\'
  | '/' => some '/'
  | 'b' => some '\x08'
  | 'f' => some '\x0c'
  | 'n' => some '\n'
  | 'r' => some '\r'
  | 't' => some '\t'
  | _ => none

/-- The code units of a literal whose opening quote has been read, and what stands behind its
closing quote. -/
def units? : List Char → Option (List Nat × List Char)
  | [] => none
  | '"' :: r => some ([], r)
  | '\\' :: 'u' :: a :: b :: c :: d :: r =>
    match unit? a b c d, units? r with
    | some u, some (us, rest) => some (u :: us, rest)
    | _, _ => none
  | '\\' :: e :: r =>
    match shortEscape? e, units? r with
    | some c, some (us, rest) => some (c.toNat :: us, rest)
    | _, _ => none
  | c :: r =>
    if c < ' ' ∨ c = '\\' then none
    else
      match units? r with
      | some (us, rest) => some (c.toNat :: us, rest)
      | none => none

/-- Whether a code unit is the first half of a surrogate pair. -/
def isLeading (u : Nat) : Bool :=
  decide (0xD800 ≤ u) && decide (u ≤ 0xDBFF)

/-- Whether a code unit is the second half of a surrogate pair. -/
def isTrailing (u : Nat) : Bool :=
  decide (0xDC00 ≤ u) && decide (u ≤ 0xDFFF)

/-- The characters that code units make up, if every surrogate has its partner. -/
def join? : List Nat → Option (List Char)
  | [] => some []
  | u :: us =>
    if isLeading u then
      match us with
      | v :: vs =>
        if isTrailing v then
          (join? vs).map (Char.ofNat (0x10000 + (u - 0xD800) * 0x400 + (v - 0xDC00)) :: ·)
        else none
      | [] => none
    else if isTrailing u then none
    else (join? us).map (Char.ofNat u :: ·)

/-- The hexadecimal digit of a value below sixteen, in lower case. -/
def hexDigit (n : Nat) : Char :=
  Nat.digitChar (n % 16)

/-- How a character is written inside a literal. Only what has to be escaped is. -/
def escape (c : Char) : List Char :=
  if c = '"' then ['\\', '"']
  else if c = '\\' then ['\\', '\\']
  else if c = '\x08' then ['\\', 'b']
  else if c = '\x0c' then ['\\', 'f']
  else if c = '\n' then ['\\', 'n']
  else if c = '\r' then ['\\', 'r']
  else if c = '\t' then ['\\', 't']
  else if c < ' ' then ['\\', 'u', '0', '0', hexDigit (c.toNat / 16), hexDigit c.toNat]
  else [c]

/-- The literal of a text, with its quotes. -/
def quote (s : List Char) : List Char :=
  '"' :: (s.flatMap escape ++ ['"'])

/-- Reading a string literal uses up its closing quote at least. -/
theorem length_units? {s : List Char} {us : List Nat} {rest : List Char}
    (h : units? s = some (us, rest)) : rest.length < s.length := by
  fun_induction units? s generalizing us with
  | case1 => cases h
  | _ =>
    simp only [List.length_cons]
    grind

end StringCalculator.Json.Literal
