import StringCalculator.Proofs.Folding.ClosedForm

/-!
# Folds that come to their end

How to see from the numbers alone whether a fold has a value. A run has one if each of its steps can
be taken, and what has to be known for that is carried along the run: `exists_foldlM_step_eq_ok`
takes a property of the exact result so far and of the numbers that are left, which rules out that
the next step fails and still holds behind it.

The other way round it is enough to look at the end. A value is the closed form of its operands, so
where the closed form is no number there is no value. All that can be had then, unless numbers are
divided, is that a step overflows (`foldlM_step_eq_overflow`).

A fold is a run from its first number, and `total` is its closed form.
-/

namespace StringCalculator

namespace Operation

section

variable {op : Operation} {acc v : Number} {ns : List Number} {f : Fault}

/-! ### Runs -/

/-- What each step needs and keeps, with the numbers that are left, leads a run to its end. -/
theorem exists_foldlM_step_eq_ok {P : Int → List Number → Prop}
    (hstep : ∀ a n ms, P a (n :: ms) → ¬(op = .quotient ∧ n = .zero) ∧
      Number.InRange (op.exact a n.toInt) ∧ P (op.exact a n.toInt) ms)
    (hacc : P acc.toInt ns) : ∃ v, ns.foldlM op.step acc = .ok v := by
  induction ns generalizing acc with
  | nil => exact ⟨acc, rfl⟩
  | cons n ns ih =>
    obtain ⟨hdivisor, hrange, hnext⟩ := hstep acc.toInt n ns hacc
    obtain ⟨r, hr⟩ := Number.exists_toInt_eq hrange
    rw [← hr] at hnext
    obtain ⟨v, hv⟩ := ih hnext
    exact ⟨v, foldlM_step_cons_eq_ok_iff.2 ⟨r, step_eq_ok_iff.2 ⟨hdivisor, hr⟩, hv⟩⟩

/-- Where nothing is divided, a run fails in one way only. -/
theorem eq_overflow_of_foldlM_eq_error (hop : op ≠ .quotient)
    (h : ns.foldlM op.step acc = .error f) : f = .overflow op := by
  obtain ⟨a, n, -, -, hfail⟩ :=
    exists_step_of_foldlM_eq_error (P := fun _ ↦ True) (fun _ _ _ _ _ _ ↦ trivial) trivial h
  have hsteps := op.steps a n
  rw [hfail] at hsteps
  cases hsteps with
  | divisor hquotient => exact absurd hquotient hop
  | overflow => rfl

/-- A closed form out of range is not reached. -/
theorem foldlM_step_eq_overflow (hop : op ≠ .quotient)
    (h : ¬Number.InRange (op.closedForm acc.toInt ns)) :
    ns.foldlM op.step acc = .error (.overflow op) := by
  rcases hrun : ns.foldlM op.step acc with f | v
  · rw [eq_overflow_of_foldlM_eq_error hop hrun]
  · exact absurd (toInt_of_foldlM_step hrun ▸ v.inRange_toInt) h

/-! ### Whole folds -/

/-- Where nothing is divided, a fold overflows or has a value. -/
theorem eq_overflow_of_fold_eq_error (hop : op ≠ .quotient) (h : op.fold ns = .error f) :
    f = .overflow op := by
  match ns, h with
  | _ :: _, h => exact eq_overflow_of_foldlM_eq_error hop h

/-- The closed form of all numbers of a list, and zero if there are none. -/
def total (op : Operation) : List Number → Int
  | [] => 0
  | n :: ns => op.closedForm n.toInt ns

/-- A fold that has a value has that of the closed form. -/
theorem toInt_of_fold (h : op.fold ns = .ok v) : v.toInt = op.total ns := by
  match ns, h with
  | [], h =>
    obtain rfl := Except.ok.inj h
    rfl
  | _ :: _, h => exact toInt_of_foldlM_step h

theorem total_sum (ns : List Number) : sum.total ns = (ns.map Number.toInt).sum := by
  match ns with
  | [] => rfl
  | _ :: _ => exact List.sum_cons.symm

theorem total_product_of_ne_nil (h : ns ≠ []) :
    product.total ns = (ns.map Number.toInt).prod := by
  match ns, h with
  | _ :: _, _ => exact List.prod_cons.symm

end

end Operation

end StringCalculator
