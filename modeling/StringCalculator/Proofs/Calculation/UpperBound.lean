import StringCalculator.Proofs.Calculation.Basic
import StringCalculator.Proofs.Folding.Permutation

/-!
# Calculations under two bounds

What it changes to raise the upper bound. The operands under the smaller bound are those under the
larger one that stay below the smaller (`filter_le_filter_le`). So where the text has no number in
between there is nothing to tell the two apart, and otherwise one run folds a part of what the other
folds.

Whether the smaller part folds at all where the whole does is another question. A fold is checked at
every step, and what is left out may be just what kept it in range. Without negative numbers a sum
cannot come back, though, so every part of a sum is in range if the whole is
(`exists_fold_sum_filter_eq_ok`), and what the part lacks is the sum of what was left out.
-/

namespace StringCalculator

namespace Operation

variable {bound bound' v : Number} {ns : List Number}

/-- What stays within the smaller bound is within the larger one. -/
theorem filter_le_filter_le (h : bound ≤ bound') (ns : List Number) :
    ((ns.filter fun n ↦ decide (n ≤ bound')).filter fun n ↦ decide (n ≤ bound)) =
      ns.filter fun n ↦ decide (n ≤ bound) := by
  rw [List.filter_filter]
  refine List.filter_congr fun n _ ↦ ?_
  rw [Bool.and_eq_left_iff_imp, decide_eq_true_eq, decide_eq_true_eq]
  exact fun hn ↦ Int.le_trans hn h

/-- Bounds with no number between them keep the same numbers. -/
theorem filter_le_congr (h : bound ≤ bound') (hns : ∀ n ∈ ns, n ≤ bound' → n ≤ bound) :
    (ns.filter fun n ↦ decide (n ≤ bound)) = ns.filter fun n ↦ decide (n ≤ bound') := by
  refine List.filter_congr fun n hn ↦ ?_
  rw [decide_eq_decide]
  exact ⟨fun hle ↦ Int.le_trans hle h, hns n hn⟩

/-- The exact sum of a list is that of a part of it and that of the rest. -/
theorem sum_toInt_filter (p : Number → Bool) (ns : List Number) :
    (ns.map Number.toInt).sum =
      ((ns.filter p).map Number.toInt).sum + ((ns.filter fun n ↦ !p n).map Number.toInt).sum := by
  rw [← List.sum_append, ← List.map_append]
  exact ((List.filter_append_perm p ns).map Number.toInt).sum_eq.symm

/-- **Without negative numbers a part of a sum is in range if the whole is**, and the two lie apart
by the exact sum of what the part lacks. -/
theorem exists_fold_sum_filter_eq_ok (hns : ∀ n ∈ ns, Number.zero ≤ n) (h : sum.fold ns = .ok v)
    (p : Number → Bool) :
    ∃ w, sum.fold (ns.filter p) = .ok w ∧ w ≤ v ∧
      v.toInt - w.toInt = ((ns.filter fun n ↦ !p n).map Number.toInt).sum := by
  have hsteady : ∀ q : Number → Bool, sum.Steady (ns.filter q) := fun q ↦
    ⟨fun n hn ↦ hns n (List.mem_filter.1 hn).1, fun hop ↦ absurd hop (by decide)⟩
  have hkept := (hsteady p).sum_nonneg
  have hleft := (hsteady fun n ↦ !p n).sum_nonneg
  have hsplit := sum_toInt_filter p ns
  have hv := toInt_of_fold h
  have hupper := v.upper
  rw [total_sum] at hv
  have hrange : Number.InRange (sum.total (ns.filter p)) := by
    rw [total_sum, Number.InRange]
    omega
  have hop : sum ≠ .quotient := by decide
  obtain ⟨w, hw⟩ := (exists_fold_eq_ok_iff hop (hsteady p)).2 hrange
  have hexact := toInt_of_fold hw
  rw [total_sum] at hexact
  refine ⟨w, hw, ?_, by omega⟩
  show w.toInt ≤ v.toInt
  omega

end Operation

namespace Configuration

/-- The configuration with another bound. -/
def withUpperBound (c : Configuration) (bound : Number) : Configuration :=
  { c with upperBound := bound }

section

variable (c : Configuration) {bound bound' : Number} {ns : List Number} {e e' : Evaluation}

/-! ### From the numbers to the outcome -/

/-- Two bounds with no number between them give numbers the same outcome. -/
theorem calculateNumbers_withUpperBound_eq (h : bound ≤ bound')
    (hns : ∀ n ∈ ns, n ≤ bound' → n ≤ bound) :
    (c.withUpperBound bound).calculateNumbers ns =
      (c.withUpperBound bound').calculateNumbers ns := by
  have hfold : c.operation.foldUpTo bound ns = c.operation.foldUpTo bound' ns := by
    rw [Operation.foldUpTo, Operation.foldUpTo, Operation.filter_le_congr h hns]
  rw [calculateNumbers_eq_bind, calculateNumbers_eq_bind]
  exact congrArg (fun r ↦ (refuseNegatives c.denyNegatives ns).bind fun _ ↦ r) hfold

/-- Numbers that fold under both bounds have operands in common. -/
theorem operands_calculateNumbers_withUpperBound (h : bound ≤ bound')
    (he : (c.withUpperBound bound).calculateNumbers ns = .ok e)
    (he' : (c.withUpperBound bound').calculateNumbers ns = .ok e') :
    e.operands = e'.operands.filter fun n ↦ decide (n ≤ bound) := by
  obtain ⟨-, hoperands, -⟩ := Operation.foldUpTo_eq_ok_iff.1 (calculateNumbers_eq_ok_iff.1 he).2
  obtain ⟨-, hoperands', -⟩ := Operation.foldUpTo_eq_ok_iff.1 (calculateNumbers_eq_ok_iff.1 he').2
  rw [hoperands, hoperands']
  exact (Operation.filter_le_filter_le h ns).symm

/-- A sum that the larger bound lets through, the smaller one does too. -/
theorem exists_calculateNumbers_withUpperBound_eq_ok (h : bound ≤ bound')
    (hop : c.operation = .sum) (hdeny : c.denyNegatives = true)
    (he' : (c.withUpperBound bound').calculateNumbers ns = .ok e') :
    ∃ e, (c.withUpperBound bound).calculateNumbers ns = .ok e ∧ e.value ≤ e'.value ∧
      e'.value.toInt - e.value.toInt =
        ((e'.operands.filter fun n ↦ !decide (n ≤ bound)).map Number.toInt).sum := by
  obtain ⟨hallowed, hfold'⟩ := calculateNumbers_eq_ok_iff.1 he'
  obtain ⟨-, hoperands', hvalue'⟩ := Operation.foldUpTo_eq_ok_iff.1 hfold'
  have hnonneg : ∀ n ∈ e'.operands, Number.zero ≤ n := fun n hn ↦
    Number.not_isNegative_iff.1 ((attains_of_calculateNumbers_eq_ok he').allowed hdeny n hn)
  have hsum : Operation.sum.fold e'.operands = .ok e'.value := hop ▸ hvalue'
  obtain ⟨w, hw, hle, hexact⟩ :=
    Operation.exists_fold_sum_filter_eq_ok hnonneg hsum fun n ↦ decide (n ≤ bound)
  have hoperands : (e'.operands.filter fun n ↦ decide (n ≤ bound)) =
      ns.filter fun n ↦ decide (n ≤ bound) := by
    rw [hoperands']
    exact Operation.filter_le_filter_le h ns
  have hvalue : c.operation.fold (e'.operands.filter fun n ↦ decide (n ≤ bound)) = .ok w := by
    rw [hop, hw]
  exact ⟨⟨w, _, c.operation⟩, calculateNumbers_eq_ok_iff.2
    ⟨hallowed, Operation.foldUpTo_eq_ok_iff.2 ⟨rfl, hoperands, hvalue⟩⟩, hle, hexact⟩

end

/-! ### From the text to the outcome -/

/-- **Raising the bound adds operands and changes nothing else.** If the text has no number above
one bound and up to the other, the outcome is the same, fault or not. If both calculations have a
value, the operands under the smaller bound are those under the larger one up to the smaller, in
their order. And where negative numbers are denied, a sum that has a value under the larger bound
has one under the smaller, which is less by the exact sum of the operands above the smaller. -/
theorem calculate_withUpperBound (c : Configuration) (text : String) {bound bound' : Number}
    (h : bound ≤ bound') :
    (isBlankText text = true ∨ (¬∃ n ∈ c.numbers text, ¬n ≤ bound ∧ n ≤ bound') →
        (c.withUpperBound bound).calculate text = (c.withUpperBound bound').calculate text) ∧
      (∀ e e', (c.withUpperBound bound).calculate text = .ok e →
        (c.withUpperBound bound').calculate text = .ok e' →
          e.operands = e'.operands.filter fun n ↦ decide (n ≤ bound)) ∧
      (c.operation = .sum → c.denyNegatives = true →
        ∀ e', (c.withUpperBound bound').calculate text = .ok e' →
          ∃ e, (c.withUpperBound bound).calculate text = .ok e ∧ e.value ≤ e'.value ∧
            e'.value.toInt - e.value.toInt =
              ((e'.operands.filter fun n ↦ !decide (n ≤ bound)).map Number.toInt).sum) := by
  by_cases hblank : isBlankText text = true
  · have hempty : ∀ b, (c.withUpperBound b).calculate text = .ok (.empty c.operation) := fun b ↦
      (c.withUpperBound b).calculate_of_isBlankText hblank
    rw [hempty, hempty]
    refine ⟨fun _ ↦ rfl, fun e e' he he' ↦ ?_, fun _ _ e' he' ↦ ⟨_, rfl, ?_⟩⟩
    · rw [← Except.ok.inj he, ← Except.ok.inj he']
      rfl
    · rw [← Except.ok.inj he']
      exact ⟨Int.le_refl _, rfl⟩
  · -- the bound does not show in the numbers of the text
    have hnumbers : ∀ b, (c.withUpperBound b).calculate text =
        (c.withUpperBound b).calculateNumbers (c.numbers text) := fun b ↦
      (c.withUpperBound b).calculate_of_not_isBlankText hblank
    rw [hnumbers, hnumbers]
    refine ⟨fun hnone ↦ c.calculateNumbers_withUpperBound_eq h fun n hn hle ↦ ?_,
      fun e e' ↦ c.operands_calculateNumbers_withUpperBound h,
      fun hop hdeny e' ↦ c.exists_calculateNumbers_withUpperBound_eq_ok h hop hdeny⟩
    exact by_contra fun hlt ↦ hnone.resolve_left hblank ⟨n, hn, hlt, hle⟩

/-- A sum whose last operand the smaller bound leaves out. The number above both bounds is not
counted under either. -/
theorem calculate_withUpperBound_sum :
    ((default : Configuration).withUpperBound (Number.ofToken "2000")).calculate "5,1500,3000" =
        .ok ⟨Number.ofToken "1505", ["5", "1500"].map Number.ofToken, .sum⟩ ∧
      ∃ e, ((default : Configuration).withUpperBound .thousand).calculate "5,1500,3000" = .ok e ∧
        e.operands = [Number.ofToken "5"] ∧ 1505 - e.value.toInt = 1500 := by
  have hlarge : ((default : Configuration).withUpperBound (Number.ofToken "2000")).calculate
      "5,1500,3000" = .ok ⟨Number.ofToken "1505", ["5", "1500"].map Number.ofToken, .sum⟩ := by
    decide +kernel
  obtain ⟨-, hoperands, hsum⟩ := calculate_withUpperBound default "5,1500,3000"
    (show Number.thousand ≤ Number.ofToken "2000" by decide +kernel)
  obtain ⟨e, he, -, hexact⟩ := hsum rfl rfl _ hlarge
  refine ⟨hlarge, e, he, ?_, ?_⟩
  · rw [hoperands e _ he hlarge]
    decide +kernel
  · exact hexact

end Configuration

end StringCalculator
