import StringCalculator.Number
import StringCalculator.Operation

/-!
# Configurations

The settings of one calculation. A configuration is a plain value: whoever holds one keeps it
unchanged, whatever is set later.

Empty delimiters are harmless, since cutting ignores them, but in a settings file they are most
likely a mistake. `withoutEmptyDelimiters` drops them, and `emptyDelimiterWarnings` says so.
-/

namespace StringCalculator

/-- The settings of a calculation. -/
structure Configuration where
  /-- The texts a calculation is cut at. -/
  delimiters : List String := [",", "\n"]
  /-- Whether negative numbers are refused. -/
  denyNegatives : Bool := true
  /-- The greatest number that still counts. -/
  upperBound : Number := Number.thousand
  /-- What the numbers are folded with. -/
  operation : Operation := .sum
deriving DecidableEq

namespace Configuration

instance : Inhabited Configuration :=
  ⟨{}⟩

/-- The configuration without its empty delimiters. -/
def withoutEmptyDelimiters (c : Configuration) : Configuration :=
  { c with delimiters := c.delimiters.filter fun d ↦ !d.isEmpty }

/-- How many of the delimiters are empty. -/
def emptyDelimiterCount (c : Configuration) : Nat :=
  c.delimiters.countP String.isEmpty

/-- What is said when the empty delimiters are dropped: nothing if there are none. -/
def emptyDelimiterWarnings (c : Configuration) : List String :=
  if c.emptyDelimiterCount = 0 then []
  else
    ["Ignoring " ++ String.ofList (Number.decimal c.emptyDelimiterCount) ++
      " empty delimiter(s) in settings"]

/-- Where the empty delimiters are gone, there are none to drop. -/
theorem withoutEmptyDelimiters_idem (c : Configuration) :
    c.withoutEmptyDelimiters.withoutEmptyDelimiters = c.withoutEmptyDelimiters := by
  simp [withoutEmptyDelimiters]

/-- Nothing is said about a configuration that is left as it is. -/
theorem emptyDelimiterWarnings_withoutEmptyDelimiters (c : Configuration) :
    c.withoutEmptyDelimiters.emptyDelimiterWarnings = [] := by
  have h : c.withoutEmptyDelimiters.emptyDelimiterCount = 0 := by
    simp [emptyDelimiterCount, withoutEmptyDelimiters, List.countP_eq_zero]
  simp [emptyDelimiterWarnings, h]

end Configuration

end StringCalculator
