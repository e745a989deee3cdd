import StringCalculator.Proofs.Calculation.Joined

/-!
# Expressions read back

The expression of a calculation is a text like any other, and it describes the calculation: cut at
the operation with its blanks, under the same settings otherwise, it gives the same value from the
same operands (`calculate_expression_of_calculate_eq_ok`).

Two symbols seem to be in the way, and the shape of an expression keeps both from doing harm. A
minus sign is an operation and a sign, but only the former stands between blanks, and a delimiter
that begins with a blank does not begin inside a number. Two slashes begin a header, but an
expression begins with a digit or a minus sign.

What has been folded once is folded again without loss (`Attains.calculateNumbers_eq`): the operands
of a result are already bounded, and refused numbers are not among them.
-/

namespace StringCalculator

namespace Evaluation

/-! ### The text of an expression -/

/-- What stands between the operands of an expression: the operation with a blank on either side. -/
def separator (op : Operation) : String :=
  " " ++ op.symbolText ++ " "

/-- The numbers that an expression shows: the operands, and a zero if there are none. -/
def shown (e : Evaluation) : List Number :=
  if e.operands.isEmpty then [Number.zero] else e.operands

theorem shown_eq_of_ne_nil {e : Evaluation} (h : e.operands ≠ []) : e.shown = e.operands := by
  rw [shown, if_neg (by simpa using h)]

theorem shown_eq_of_eq_nil {e : Evaluation} (h : e.operands = []) : e.shown = [Number.zero] := by
  rw [shown, if_pos (by simpa using h)]

theorem shown_ne_nil (e : Evaluation) : e.shown ≠ [] := by
  by_cases h : e.operands = []
  · rw [shown_eq_of_eq_nil h]
    exact List.cons_ne_nil _ _
  · rwa [shown_eq_of_ne_nil h]

/-- An expression is a row of numbers with the symbol between them. -/
theorem expression_eq_joined (e : Evaluation) :
    e.expression = joined (separator e.operation) e.shown := by
  by_cases h : e.operands = []
  · rw [expression, if_pos (by simpa using h), shown_eq_of_eq_nil h]
    rfl
  · rw [expression, if_neg (by simpa using h), shown_eq_of_ne_nil h]
    rfl

/-- An expression begins like a number. -/
theorem exists_toList_expression_eq_cons (e : Evaluation) :
    ∃ c r, e.expression.toList = c :: r ∧ (c.isDigit = true ∨ c = '-') := by
  rw [expression_eq_joined]
  exact exists_toList_joined_eq_cons e.shown_ne_nil

/-- The separator begins with a blank, and no number is written with one. -/
theorem setsApart_separator (op : Operation) : SetsApart (separator op) "" := by
  refine ⟨by simp [separator], nofun, fun c _ ↦ List.not_mem_nil, fun c hc n ↦ ?_⟩
  obtain rfl : ' ' = c := by simpa [separator] using hc
  exact n.not_mem_toText (by decide) (by decide)

end Evaluation

namespace Configuration

/-! ### Folding again -/

/-- Operands lose nothing when they are refused, bounded and folded again. -/
theorem Attains.calculateNumbers_eq {c : Configuration} {e : Evaluation} (h : c.Attains e) :
    c.calculateNumbers e.operands = .ok e := by
  have hall : (e.operands.filter fun n ↦ decide (n ≤ c.upperBound)) = e.operands :=
    List.filter_eq_self.2 fun n hn ↦ decide_eq_true (h.bounded n hn)
  refine calculateNumbers_eq_ok_iff.2 ⟨h.allowed, ?_⟩
  exact Operation.foldUpTo_eq_ok_iff.2 ⟨h.operation, hall.symm, h.folded⟩

/-! ### Reading an expression back -/

/-- The configuration that reads the expressions of its own results: the operation with its blanks
is the only delimiter. -/
def forExpressions (c : Configuration) : Configuration :=
  c.withDelimiters [Evaluation.separator c.operation]

/-- What an expression shows is all that is calculated with. -/
theorem calculate_forExpressions_expression {c : Configuration} {e : Evaluation}
    (h : e.operation = c.operation) :
    c.forExpressions.calculate e.expression = c.calculateNumbers e.shown := by
  have hjoined := calculate_joined (Evaluation.setsApart_separator c.operation) c e.shown_ne_nil
  rw [String.append_empty] at hjoined
  rw [e.expression_eq_joined, h]
  exact hjoined

/-- **An expression evaluates to what it describes**: the same value, from the same operands, with
the same operation. Where nothing was folded the expression is a zero, which has the value that was
given for nothing. -/
theorem calculate_expression_of_calculate_eq_ok {c : Configuration} {text : String}
    {e : Evaluation} (h : c.calculate text = .ok e) :
    (e.operands ≠ [] → c.forExpressions.calculate e.expression = .ok e) ∧
      (e.operands = [] → c.forExpressions.value e.expression = .ok Number.zero) := by
  have hattains := attains_of_calculate_eq_ok h
  have hexpression := calculate_forExpressions_expression hattains.operation
  refine ⟨fun hne ↦ ?_, fun hnil ↦ ?_⟩
  · rw [hexpression, Evaluation.shown_eq_of_ne_nil hne]
    exact hattains.calculateNumbers_eq
  · rw [value, hexpression, Evaluation.shown_eq_of_eq_nil hnil,
      c.value_of_forall_eq_zero fun _ hn ↦ List.mem_singleton.1 hn]
    exact if_neg fun h ↦ absurd h.2.2 (by decide)

/-- A difference of negative numbers, the least of all among them, with a third one above the bound.
Its expression is `-9223372036854775808 - -3`. -/
theorem calculate_expression_of_calculate_eq_ok_difference :
    (⟨["|"], false, Number.thousand, .difference⟩ : Configuration).calculate
        ("|".intercalate ["-9223372036854775808", "1001", "-3"]) =
        .ok ⟨Number.ofToken "-9223372036854775805",
          [Number.ofToken "-9223372036854775808", Number.ofToken "-3"], .difference⟩ ∧
      (⟨[" - "], false, Number.thousand, .difference⟩ : Configuration).calculate
        "-9223372036854775808 - -3" =
        .ok ⟨Number.ofToken "-9223372036854775805",
          [Number.ofToken "-9223372036854775808", Number.ofToken "-3"], .difference⟩ := by
  have hcalculate : (⟨["|"], false, Number.thousand, .difference⟩ : Configuration).calculate
      ("|".intercalate ["-9223372036854775808", "1001", "-3"]) =
      .ok ⟨Number.ofToken "-9223372036854775805",
        [Number.ofToken "-9223372036854775808", Number.ofToken "-3"], .difference⟩ := by
    rw [calculate_of_not_isHeaded _ (by decide) (by decide),
      Delimiter.pieces_singleton_intercalate (by decide) (by decide) (by simp)]
    decide
  exact ⟨hcalculate, (calculate_expression_of_calculate_eq_ok hcalculate).1 (by decide)⟩

end Configuration

end StringCalculator
