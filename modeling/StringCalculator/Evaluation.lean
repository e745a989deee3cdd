import StringCalculator.Number
import StringCalculator.Operation

/-!
# Evaluations

What becomes of a list of numbers: the ones above an upper bound are left out, the rest are folded
with one operation, and the result remembers the operands so that it can be written out as an
equation.

A fold step is taken over the integers and then has to fit a number again. This way a step fails
exactly where its true result is out of range, and no wrapped value exists even for a moment. A zero
divisor is noticed before that.
-/

namespace StringCalculator

/-- Why a calculation has no result. -/
inductive Fault where
  /-- Numbers below zero where none are allowed: all of them, in the order of the input. -/
  | negatives (values : List Number)
  /-- A quotient met a zero divisor; the dividend is the result of the steps before. -/
  | divisionByZero (dividend : Number)
  /-- The result of a step is out of range. -/
  | overflow (operation : Operation)
deriving DecidableEq

/-- What is said about a fault. -/
def Fault.message : Fault → String
  | negatives values => "Negatives not allowed: " ++ ", ".intercalate (values.map Number.toText)
  | divisionByZero dividend =>
    "Attempted to divide by zero (dividend " ++ dividend.toText ++ ")"
  | overflow operation =>
    "Arithmetic operation resulted in an overflow (" ++ operation.name ++ " fold)"

/-- The result of a calculation, with the numbers that went into it. -/
structure Evaluation where
  /-- The result. -/
  value : Number
  /-- The numbers that were folded, in the order of the input. -/
  operands : List Number
  /-- The operation they were folded with. -/
  operation : Operation
deriving DecidableEq

namespace Evaluation

/-- The result of folding no numbers at all, whatever the operation. -/
def empty (op : Operation) : Evaluation :=
  ⟨Number.zero, [], op⟩

/-- The operands written out with the operation between them, and zero if there are none. -/
def expression (e : Evaluation) : String :=
  if e.operands.isEmpty then "0"
  else (" " ++ e.operation.symbolText ++ " ").intercalate (e.operands.map Number.toText)

/-- The calculation as an equation: its operands on the left, its value on the right. -/
def equation (e : Evaluation) : String :=
  e.expression ++ " = " ++ e.value.toText

end Evaluation

/-! ### Folding -/

/-- One step of a fold: the operation on the result so far and the next number. -/
def Operation.step (op : Operation) (acc n : Number) : Except Fault Number :=
  if op = .quotient ∧ n = Number.zero then .error (.divisionByZero acc)
  else
    match Number.ofInt? (op.exact acc.toInt n.toInt) with
    | some r => .ok r
    | none => .error (.overflow op)

/-- The fold of a list, which starts with its first number and ends at the first step that fails.
Folding nothing gives zero. -/
def Operation.fold (op : Operation) : List Number → Except Fault Number
  | [] => .ok Number.zero
  | n :: ns => ns.foldlM op.step n

/-- Folds the numbers that do not exceed the bound. -/
def Operation.foldUpTo (op : Operation) (bound : Number) (numbers : List Number) :
    Except Fault Evaluation :=
  let operands := numbers.filter fun n ↦ decide (n ≤ bound)
  (op.fold operands).map fun value ↦ ⟨value, operands, op⟩

/-- Refuses a list that holds negative numbers, if they are denied. All of them are reported, and
before any bound has been looked at. -/
def refuseNegatives (denyNegatives : Bool) (numbers : List Number) : Except Fault Unit :=
  let negatives := numbers.filter Number.isNegative
  if denyNegatives && !negatives.isEmpty then .error (.negatives negatives) else .ok ()

end StringCalculator
