import StringCalculator.Configuration
import StringCalculator.Delimiter
import StringCalculator.Evaluation
import StringCalculator.Header

/-!
# Calculations

A text is calculated under a configuration: its header is taken off, the rest is cut into pieces,
each piece is read as a number, negative numbers are refused if they are denied, and what does not
exceed the bound is folded.

A text of blanks alone is worth zero before any of this happens, even where a blank is a delimiter.
This looks at the text as given: a blank payload behind a header is cut like any other and gives
zeros.
-/

namespace StringCalculator

namespace Configuration

/-- The delimiters in force for a text: the configured ones, then those its header declares. -/
def delimitersFor (c : Configuration) (h : Headed) : List String :=
  c.delimiters ++ h.declared

/-- The numbers a text holds under a configuration, one for each piece. -/
def numbers (c : Configuration) (text : String) : List Number :=
  let headed := Header.detach text
  (Delimiter.pieces (c.delimitersFor headed) headed.payload).map Number.ofToken

/-- The outcome of a list of numbers: refused, or bounded and folded. -/
def calculateNumbers (c : Configuration) (numbers : List Number) : Except Fault Evaluation :=
  match refuseNegatives c.denyNegatives numbers with
  | .error f => .error f
  | .ok () => c.operation.foldUpTo c.upperBound numbers

/-- The outcome of a text. -/
def calculate (c : Configuration) (text : String) : Except Fault Evaluation :=
  if isBlankText text then .ok (Evaluation.empty c.operation)
  else c.calculateNumbers (c.numbers text)

/-- The outcome of a text without the operands. -/
def value (c : Configuration) (text : String) : Except Fault Number :=
  (c.calculate text).map Evaluation.value

end Configuration

end StringCalculator
