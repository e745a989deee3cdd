import StringCalculator.Json.Basic
import StringCalculator.Json.Literal

/-!
# JSON tokens

The words a JSON text is made of: brackets, braces, commas, colons and literals, with white space
between them. Each token has one text it is written as (`Token.text`); reading (`Token.scan?`)
accepts every spelling of it.

Scanning knows nothing of the order of tokens. Two literals with nothing between them scan as two
tokens, and that no value stands next to another is for the grammar to say. In particular a leading
zero ends its literal, and the digits behind it make a second one that no grammar lets stand.
-/

namespace StringCalculator.Json

/-- A word of a JSON text. -/
inductive Token where
  /-- The bracket that opens an array. -/
  | openArray
  /-- The bracket that closes an array. -/
  | closeArray
  /-- The brace that opens an object. -/
  | openObject
  /-- The brace that closes an object. -/
  | closeObject
  /-- The comma between elements and between members. -/
  | comma
  /-- The colon between a name and its value. -/
  | colon
  /-- The literal `null`. -/
  | null
  /-- One of the literals `true` and `false`. -/
  | bool (value : Bool)
  /-- An integer literal other than negative zero. -/
  | integer (value : Int)
  /-- Any other number literal. -/
  | decimal
  /-- A string literal, with the text it spells, if it spells one. -/
  | string (text : Option String)
deriving DecidableEq

namespace Token

/-- How a token is written. A string literal that spells no text, and a decimal, stand for many
literals; they are written as one of those. -/
def text : Token → List Char
  | openArray => ['[']
  | closeArray => [']']
  | openObject => ['\x7b']
  | closeObject => ['\x7d']
  | comma => [',']
  | colon => [':']
  | null => ['n', 'u', 'l', 'l']
  | bool true => ['t', 'r', 'u', 'e']
  | bool false => ['f', 'a', 'l', 's', 'e']
  | integer n => Number.decimal n
  | decimal => ['0', '.', '0']
  | string (some s) => Literal.quote s.toList
  | string none => ['"', '\\', 'u', 'd', '8', '0', '0', '"']

/-! ### Number literals -/

/-- The integer part of a number literal: a zero, or digits that begin with another one. -/
def whole? : List Char → Option (Nat × List Char)
  | '0' :: s => some (0, s)
  | s =>
    let ds := s.takeWhile Char.isDigit
    if ds.isEmpty then none else some (Nat.ofDigitChars 10 ds 0, s.dropWhile Char.isDigit)

/-- What stands behind a nonempty run of digits. -/
def afterDigits? (s : List Char) : Option (List Char) :=
  if (s.takeWhile Char.isDigit).isEmpty then none else some (s.dropWhile Char.isDigit)

/-- What stands behind a fraction, and whether there is one. -/
def fraction? : List Char → Option (Bool × List Char)
  | '.' :: s => (afterDigits? s).map (true, ·)
  | s => some (false, s)

/-- The text without the sign it may begin with. -/
def dropSign : List Char → List Char
  | '+' :: s => s
  | '-' :: s => s
  | s => s

/-- What stands behind an exponent, and whether there is one. -/
def exponent? : List Char → Option (Bool × List Char)
  | 'e' :: s => (afterDigits? (dropSign s)).map (true, ·)
  | 'E' :: s => (afterDigits? (dropSign s)).map (true, ·)
  | s => some (false, s)

/-- The number literal a text begins with, behind its minus sign if it has one. -/
def number? (minus : Bool) (s : List Char) : Option (Token × List Char) :=
  match whole? s with
  | none => none
  | some (n, s) =>
    match fraction? s with
    | none => none
    | some (hasFraction, s) =>
      match exponent? s with
      | none => none
      | some (hasExponent, s) =>
        if hasFraction || hasExponent || (minus && n == 0) then some (decimal, s)
        else some (integer (if minus then -(n : Int) else n), s)

/-! ### Scanning -/

/-- Whether a character may stand between tokens. -/
def isSpace (c : Char) : Bool :=
  c == ' ' || c == '\t' || c == '\n' || c == '\r'

/-- The token a text begins with, and what stands behind it. -/
def next? : List Char → Option (Token × List Char)
  | '[' :: s => some (openArray, s)
  | ']' :: s => some (closeArray, s)
  | '\x7b' :: s => some (openObject, s)
  | '\x7d' :: s => some (closeObject, s)
  | ',' :: s => some (comma, s)
  | ':' :: s => some (colon, s)
  | 'n' :: 'u' :: 'l' :: 'l' :: s => some (null, s)
  | 't' :: 'r' :: 'u' :: 'e' :: s => some (bool true, s)
  | 'f' :: 'a' :: 'l' :: 's' :: 'e' :: s => some (bool false, s)
  | '"' :: s =>
    match Literal.units? s with
    | some (us, rest) => some (string ((Literal.join? us).map String.ofList), rest)
    | none => none
  | '-' :: s => number? true s
  | s => number? false s

/-! ### Every token takes something off the text -/

theorem length_dropWhile_le (p : Char → Bool) (s : List Char) :
    (s.dropWhile p).length ≤ s.length :=
  (List.dropWhile_sublist p).length_le

theorem length_dropWhile_lt {p : Char → Bool} {s : List Char}
    (h : (s.takeWhile p).isEmpty = false) : (s.dropWhile p).length < s.length := by
  have happ := congrArg List.length (List.takeWhile_append_dropWhile (p := p) (l := s))
  have hpos : 0 < (s.takeWhile p).length := by
    rw [List.isEmpty_eq_false_iff] at h
    exact List.length_pos_iff.2 h
  rw [List.length_append] at happ
  omega

theorem length_whole? {s rest : List Char} {n : Nat} (h : whole? s = some (n, rest)) :
    rest.length < s.length := by
  unfold whole? at h
  split at h
  · cases h
    simp
  · dsimp only at h
    split at h
    · cases h
    · next hne =>
      cases h
      exact length_dropWhile_lt (by simpa using hne)

theorem length_afterDigits? {s rest : List Char} (h : afterDigits? s = some rest) :
    rest.length ≤ s.length := by
  unfold afterDigits? at h
  split at h
  · cases h
  · cases h
    exact length_dropWhile_le _ _

theorem length_fraction? {s rest : List Char} {b : Bool} (h : fraction? s = some (b, rest)) :
    rest.length ≤ s.length := by
  unfold fraction? at h
  split at h
  · next s =>
    obtain ⟨r, hr, heq⟩ := Option.map_eq_some_iff.1 h
    cases heq
    have := length_afterDigits? hr
    simp only [List.length_cons]
    omega
  · cases h
    exact Nat.le_refl _

theorem length_dropSign (s : List Char) : (dropSign s).length ≤ s.length := by
  unfold dropSign
  split <;> simp

theorem length_afterExponent {s rest : List Char} {b : Bool}
    (h : (afterDigits? (dropSign s)).map (true, ·) = some (b, rest)) :
    rest.length ≤ s.length := by
  obtain ⟨r, hr, heq⟩ := Option.map_eq_some_iff.1 h
  cases heq
  exact Nat.le_trans (length_afterDigits? hr) (length_dropSign s)

theorem length_exponent? {s rest : List Char} {b : Bool} (h : exponent? s = some (b, rest)) :
    rest.length ≤ s.length := by
  unfold exponent? at h
  split at h
  · exact Nat.le_succ_of_le (length_afterExponent h)
  · exact Nat.le_succ_of_le (length_afterExponent h)
  · cases h
    exact Nat.le_refl _

theorem length_number? {minus : Bool} {s rest : List Char} {t : Token}
    (h : number? minus s = some (t, rest)) : rest.length < s.length := by
  unfold number? at h
  split at h
  · cases h
  · next hw =>
    split at h
    · cases h
    · next hf =>
      split at h
      · cases h
      · next he =>
        have hw := length_whole? hw
        have hf := length_fraction? hf
        have he := length_exponent? he
        split at h <;>
          · cases h
            omega

/-- Every token has a character at least, so that scanning comes to an end. -/
theorem length_next? {s rest : List Char} {t : Token} (h : next? s = some (t, rest)) :
    rest.length < s.length := by
  unfold next? at h
  split at h
  case h_10 =>
    split at h
    · next hu =>
      cases h
      have := Literal.length_units? hu
      simp only [List.length_cons]
      omega
    · cases h
  case h_11 =>
    have := length_number? h
    simp only [List.length_cons]
    omega
  case h_12 => exact length_number? h
  all_goals
    cases h
    simp only [List.length_cons]
    omega

/-- The tokens of a text, if it is made of tokens and white space only. -/
def scan? (s : List Char) : Option (List Token) :=
  match _hs : s.dropWhile isSpace with
  | [] => some []
  | c :: r =>
    match _hn : next? (c :: r) with
    | some (t, rest) => (scan? rest).map (t :: ·)
    | none => none
termination_by s.length
decreasing_by
  have hn := length_next? _hn
  have hs := congrArg List.length _hs
  have hd := length_dropWhile_le isSpace s
  omega

end Token

end StringCalculator.Json
