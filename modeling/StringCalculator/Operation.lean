import StringCalculator.Text.Blank

/-!
# Operations

The four operations a list of numbers can be folded with. Each has a one-character symbol, used
when a calculation is written out and when settings are saved, and a name, used in messages; people
may give either. On integers the operations are exact: whether a result fits a number is asked
afterwards.
-/

namespace StringCalculator

/-- The binary operation a list of numbers is folded with. -/
inductive Operation where
  /-- Adds every number. -/
  | sum
  /-- Multiplies every number. -/
  | product
  /-- Takes the later numbers from the first. -/
  | difference
  /-- Divides the first number by the later ones in turn, each time toward zero. -/
  | quotient
deriving DecidableEq

/-- The text given for an operation names none. -/
structure UnknownOperation where
  /-- The single character that is no symbol, or the whole text as it was given. -/
  text : String
deriving DecidableEq

/-- What is said about a text that names no operation. -/
def UnknownOperation.message (e : UnknownOperation) : String :=
  "unknown operation `" ++ e.text ++
    "`, expected one of + * - / or sum, product, difference, quotient"

namespace Operation

instance : Inhabited Operation :=
  ⟨sum⟩

/-- Every operation, in the order messages list them. -/
def all : List Operation :=
  [sum, product, difference, quotient]

/-- The character an operation is written with between its operands. -/
def symbol : Operation → Char
  | sum => '+'
  | product => '*'
  | difference => '-'
  | quotient => '/'

/-- The English name of an operation's result, in lower case. -/
def name : Operation → String
  | sum => "sum"
  | product => "product"
  | difference => "difference"
  | quotient => "quotient"

/-- The symbol as text. -/
def symbolText (op : Operation) : String :=
  String.singleton op.symbol

/-- The operation with a given symbol. -/
def ofSymbol? (c : Char) : Option Operation :=
  all.find? fun op ↦ op.symbol == c

/-- The operation with a given name, where upper and lower case of ASCII letters count as one.
Letters beyond ASCII never count as ASCII ones: `Char.toLower` leaves them alone. -/
def ofName? (s : List Char) : Option Operation :=
  all.find? fun op ↦ op.name.toList == s.map Char.toLower

/-- The operation a single character stands for. -/
def ofChar (c : Char) : Except UnknownOperation Operation :=
  match ofSymbol? c with
  | some op => .ok op
  | none => .error ⟨String.singleton c⟩

/-- The operation a text stands for: a symbol or a name, with any blanks around it. A refusal
carries the one character left between the blanks, or else the text as it was given. -/
def ofText (s : String) : Except UnknownOperation Operation :=
  match trim s.toList with
  | [c] => ofChar c
  | t =>
    match ofName? t with
    | some op => .ok op
    | none => .error ⟨s⟩

/-- The result of one step over the integers. A quotient is rounded toward zero. -/
def exact : Operation → Int → Int → Int
  | sum, a, n => a + n
  | product, a, n => a * n
  | difference, a, n => a - n
  | quotient, a, n => a.tdiv n

/-! ### Symbols and names tell operations apart -/

@[simp]
theorem ofSymbol?_symbol (op : Operation) : ofSymbol? op.symbol = some op := by
  cases op <;> rfl

/-- Symbols tell operations apart. -/
theorem ofSymbol?_eq_some_iff {c : Char} {op : Operation} :
    ofSymbol? c = some op ↔ c = op.symbol := by
  constructor
  · intro h
    have := List.find?_some h
    exact (beq_iff_eq.1 this).symm
  · rintro rfl
    exact ofSymbol?_symbol op

end Operation

end StringCalculator
