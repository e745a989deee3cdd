import StringCalculator.Configuration
import StringCalculator.Evaluation
import StringCalculator.Json.Printer
import StringCalculator.Json.Reader

/-!
# Records

Configurations and evaluations as JSON. Both are records with fixed field names. Writing gives an
object with every field, in a fixed order. Reading takes an object or an array, and a configuration
may leave fields out, which then have their defaults; an evaluation may not.

An operation is written as its symbol and may be read from anything that names it.
-/

namespace StringCalculator

namespace Json

/-- The JSON string of a text. -/
def ofString (s : String) : Json :=
  string (some s)

/-- The JSON integer of a number. -/
def ofNumber (n : Number) : Json :=
  integer n.toInt

/-- The JSON string of an operation. -/
def ofOperation (op : Operation) : Json :=
  ofString op.symbolText

/-- The JSON object with given members. -/
def ofMembers (members : List (String × Json)) : Json :=
  object (members.map fun m ↦ (some m.1, m.2))

/-- The operation that a string names. -/
def operation? (j : Json) : Option Operation :=
  j.text?.bind fun s ↦ (Operation.ofText s).toOption

end Json

namespace Configuration

/-- The names of the fields, in the order they are written. -/
def fieldNames : List String :=
  ["delimiters", "denyNegatives", "upperBound", "operation"]

/-- A configuration as JSON. -/
def toJson (c : Configuration) : Json :=
  .ofMembers
    [("delimiters", .array (c.delimiters.map Json.ofString)),
      ("denyNegatives", .bool c.denyNegatives),
      ("upperBound", .ofNumber c.upperBound),
      ("operation", .ofOperation c.operation)]

/-- The configuration that a JSON value describes. -/
def ofJson? (j : Json) : Option Configuration :=
  match j.fields? fieldNames with
  | some [delimiters, denyNegatives, upperBound, operation] => do
    let base : Configuration := {}
    let delimiters ← Json.fieldOr base.delimiters (Json.list? Json.text?) delimiters
    let denyNegatives ← Json.fieldOr base.denyNegatives Json.bool? denyNegatives
    let upperBound ← Json.fieldOr base.upperBound Json.number? upperBound
    let operation ← Json.fieldOr base.operation Json.operation? operation
    return ⟨delimiters, denyNegatives, upperBound, operation⟩
  | _ => none

/-- A configuration as JSON text. -/
def toJsonText (c : Configuration) : String :=
  c.toJson.compact

/-- The configuration that a JSON text describes. -/
def ofJsonText? (text : String) : Option Configuration :=
  (Json.ofText? text).bind ofJson?

end Configuration

namespace Evaluation

/-- The names of the fields, in the order they are written. -/
def fieldNames : List String :=
  ["value", "operands", "operation"]

/-- An evaluation as JSON. -/
def toJson (e : Evaluation) : Json :=
  .ofMembers
    [("value", .ofNumber e.value),
      ("operands", .array (e.operands.map Json.ofNumber)),
      ("operation", .ofOperation e.operation)]

/-- The evaluation that a JSON value describes. -/
def ofJson? (j : Json) : Option Evaluation :=
  match j.fields? fieldNames with
  | some [some value, some operands, some operation] => do
    let value ← value.number?
    let operands ← operands.list? Json.number?
    let operation ← operation.operation?
    return ⟨value, operands, operation⟩
  | _ => none

/-- An evaluation as JSON text without white space. -/
def toJsonText (e : Evaluation) : String :=
  e.toJson.compact

/-- An evaluation as JSON text with one field on a line. -/
def toWideJsonText (e : Evaluation) : String :=
  e.toJson.wide

/-- The evaluation that a JSON text describes. -/
def ofJsonText? (text : String) : Option Evaluation :=
  (Json.ofText? text).bind ofJson?

end Evaluation

end StringCalculator
