import StringCalculator.Proofs.Calculation.Basic
import StringCalculator.Proofs.Folding.Nonnegative

/-!
# Refusing negative numbers

What it changes to deny negative numbers. The question is asked of all the numbers of a text, before
any of them is left out or folded. So it has one of two effects: a text without negative numbers is
calculated as if nothing were denied, and a text with one is refused for it and for nothing else,
even where a fold would have failed (`calculate_withDenyNegatives`).

What is not refused has operands from zero up to the bound, and `Bounds` says what that makes of the
value. A result that a configuration attains is all this rests on; the text is not looked at again.
-/

namespace StringCalculator

namespace Configuration

/-- The configuration with negative numbers denied or allowed. -/
def withDenyNegatives (c : Configuration) (deny : Bool) : Configuration :=
  { c with denyNegatives := deny }

/-! ### From the numbers to the outcome -/

section

variable (c : Configuration) {ns : List Number}

/-- Whether negative numbers are denied is not asked if there are none. -/
theorem calculateNumbers_withDenyNegatives_of_forall
    (h : ∀ n ∈ ns, ¬n.isNegative = true) (deny : Bool) :
    (c.withDenyNegatives deny).calculateNumbers ns = c.operation.foldUpTo c.upperBound ns := by
  have hok : refuseNegatives deny ns = .ok () := refuseNegatives_eq_ok_iff.2 fun _ ↦ h
  rw [calculateNumbers_eq_bind]
  show (refuseNegatives deny ns).bind _ = _
  rw [hok]
  rfl

/-- One negative number is enough to be refused, and nothing is folded. -/
theorem calculateNumbers_withDenyNegatives_true_of_mem {n : Number} (hn : n ∈ ns)
    (hneg : n.isNegative = true) :
    (c.withDenyNegatives true).calculateNumbers ns =
      .error (.negatives (ns.filter Number.isNegative)) := by
  rw [calculateNumbers_eq_bind]
  show (refuseNegatives true ns).bind _ = _
  rw [refuseNegatives_of_mem hn hneg]
  rfl

/-- Where negative numbers are allowed, folding is all that can fail. -/
theorem calculateNumbers_withDenyNegatives_false :
    (c.withDenyNegatives false).calculateNumbers ns = c.operation.foldUpTo c.upperBound ns := by
  rw [calculateNumbers_eq_bind]
  rfl

/-- Without negative numbers a quotient does not leave the range. -/
theorem calculateNumbers_withDenyNegatives_true_ne_overflow (hop : c.operation = .quotient)
    (op : Operation) :
    (c.withDenyNegatives true).calculateNumbers ns ≠ .error (.overflow op) := by
  by_cases hneg : ∃ n ∈ ns, n.isNegative = true
  · obtain ⟨n, hn, hneg⟩ := hneg
    rw [c.calculateNumbers_withDenyNegatives_true_of_mem hn hneg]
    exact nofun
  · have hall : ∀ n ∈ ns, ¬n.isNegative = true := fun n hn h ↦ hneg ⟨n, hn, h⟩
    rw [c.calculateNumbers_withDenyNegatives_of_forall hall, hop, ne_eq,
      Operation.foldUpTo_eq_error_iff]
    refine Operation.fold_quotient_ne_overflow (fun n hn ↦ ?_) op
    exact Number.not_isNegative_iff.1 (hall n (List.mem_filter.1 hn).1)

end

/-! ### Results without negative operands -/

/-- How far a result lies from its operands and from zero, where negative numbers are denied. -/
structure Bounds (c : Configuration) (e : Evaluation) : Prop where
  /-- The operation is the configured one. -/
  operation : e.operation = c.operation
  /-- Every operand lies between zero and the bound. -/
  operands_mem : ∀ n ∈ e.operands, Number.zero ≤ n ∧ n ≤ c.upperBound
  /-- Only a difference may fall below zero. -/
  zero_le_value : c.operation ≠ .difference → Number.zero ≤ e.value
  /-- A sum is no less than any operand. -/
  le_value : c.operation = .sum → ∀ n ∈ e.operands, n ≤ e.value
  /-- A difference or quotient does not exceed the first operand. -/
  value_le : c.operation = .difference ∨ c.operation = .quotient →
    ∀ n ∈ e.operands.head?, e.value ≤ n

/-- With the guard on, what is attained is within the bounds for its operation. -/
theorem Attains.bounds {c : Configuration} {e : Evaluation} (h : c.Attains e)
    (hdeny : c.denyNegatives = true) : c.Bounds e := by
  have hzero : ∀ n ∈ e.operands, Number.zero ≤ n := fun n hn ↦
    Number.not_isNegative_iff.1 (h.allowed hdeny n hn)
  have hfold := h.folded
  refine ⟨h.operation, fun n hn ↦ ⟨hzero n hn, h.bounded n hn⟩, fun hop ↦ ?_, fun hop ↦ ?_,
    fun hop ↦ ?_⟩
  · exact Operation.zero_le_of_fold hop hzero hfold
  · rw [hop] at hfold
    exact Operation.le_of_fold_sum hzero hfold
  · exact Operation.le_head_of_fold hop hzero hfold

/-! ### From the text to the outcome -/

section

variable (c : Configuration) {text : String}

/-- A blank text is worth zero, whatever is denied. -/
theorem calculate_withDenyNegatives_of_isBlankText (h : isBlankText text = true) (deny : Bool) :
    (c.withDenyNegatives deny).calculate text = .ok (.empty c.operation) :=
  (c.withDenyNegatives deny).calculate_of_isBlankText h

/-- What is denied does not show in the numbers of a text. -/
theorem calculate_withDenyNegatives_of_not_isBlankText (h : ¬isBlankText text = true)
    (deny : Bool) :
    (c.withDenyNegatives deny).calculate text =
      (c.withDenyNegatives deny).calculateNumbers (c.numbers text) :=
  (c.withDenyNegatives deny).calculate_of_not_isBlankText h

/-- What passes the guard is bounded. -/
theorem bounds_of_calculate_withDenyNegatives_true {e : Evaluation}
    (h : (c.withDenyNegatives true).calculate text = .ok e) : c.Bounds e := by
  have hbounds := (attains_of_calculate_eq_ok h).bounds rfl
  -- the bounds do not mention what is denied
  exact ⟨hbounds.operation, hbounds.operands_mem, hbounds.zero_le_value, hbounds.le_value,
    hbounds.value_le⟩

end

/-- **Denying negative numbers is a guard and nothing else.** Texts without negative numbers have
the same outcome either way. A text with one is refused, and all its negative numbers are reported,
whatever else is wrong with it; where they are allowed, they are never reported. What passes the
guard is bounded, and a quotient that passes it does not overflow. -/
theorem calculate_withDenyNegatives (c : Configuration) (text : String) :
    (isBlankText text = true ∨ (∀ n ∈ c.numbers text, ¬n.isNegative = true) →
        (c.withDenyNegatives true).calculate text = (c.withDenyNegatives false).calculate text) ∧
      (¬isBlankText text = true → (∃ n ∈ c.numbers text, n.isNegative = true) →
        (c.withDenyNegatives true).calculate text =
          .error (.negatives ((c.numbers text).filter Number.isNegative))) ∧
      (∀ ns, (c.withDenyNegatives false).calculate text ≠ .error (.negatives ns)) ∧
      (∀ e, (c.withDenyNegatives true).calculate text = .ok e → c.Bounds e) ∧
      (c.operation = .quotient → ∀ op,
        (c.withDenyNegatives true).calculate text ≠ .error (.overflow op)) := by
  have hbounds : ∀ e, (c.withDenyNegatives true).calculate text = .ok e → c.Bounds e :=
    fun _ ↦ c.bounds_of_calculate_withDenyNegatives_true
  by_cases hblank : isBlankText text = true
  · have hempty := c.calculate_withDenyNegatives_of_isBlankText hblank
    refine ⟨fun _ ↦ ?_, fun h ↦ absurd hblank h, fun ns ↦ ?_, hbounds, fun _ op ↦ ?_⟩
    · rw [hempty, hempty]
    · rw [hempty]
      exact nofun
    · rw [hempty]
      exact nofun
  · have hcalculate := c.calculate_withDenyNegatives_of_not_isBlankText hblank
    refine ⟨fun h ↦ ?_, fun _ hneg ↦ ?_, fun ns ↦ ?_, hbounds, fun hop op ↦ ?_⟩
    · have hall := h.resolve_left hblank
      rw [hcalculate, hcalculate, c.calculateNumbers_withDenyNegatives_of_forall hall,
        c.calculateNumbers_withDenyNegatives_of_forall hall]
    · obtain ⟨n, hn, hneg⟩ := hneg
      rw [hcalculate, c.calculateNumbers_withDenyNegatives_true_of_mem hn hneg]
    · rw [hcalculate, c.calculateNumbers_withDenyNegatives_false, ne_eq,
        Operation.foldUpTo_eq_error_iff]
      exact Operation.fold_ne_negatives _ _ ns
    · rw [hcalculate]
      exact c.calculateNumbers_withDenyNegatives_true_ne_overflow hop op

/-- A quotient with a zero divisor, of which nothing is said as there is a negative number behind
it. Without that number the division by zero shows. -/
theorem calculate_withDenyNegatives_quotient :
    (({ operation := .quotient } : Configuration).withDenyNegatives true).calculate "10,0,-1" =
        .error (.negatives [Number.ofToken "-1"]) ∧
      (({ operation := .quotient } : Configuration).withDenyNegatives true).calculate "10,0" =
        (({ operation := .quotient } : Configuration).withDenyNegatives false).calculate
          "10,0" := by
  have hrefused := (calculate_withDenyNegatives { operation := .quotient } "10,0,-1").2.1
    (by decide) (by decide +kernel)
  have hfilter : (({ operation := .quotient } : Configuration).numbers "10,0,-1").filter
      Number.isNegative = [Number.ofToken "-1"] := by decide +kernel
  rw [hfilter] at hrefused
  exact ⟨hrefused, (calculate_withDenyNegatives { operation := .quotient } "10,0").1
    (Or.inr (by decide +kernel))⟩

end Configuration

end StringCalculator
