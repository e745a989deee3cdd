import StringCalculator.Proofs.Folding

/-!
# Folding numbers that are not negative

Where no number is negative a fold can be bounded without being computed. Results stay at zero or
above, unless numbers are taken away (`zero_le_of_fold`); adding never falls below any of the
numbers (`le_of_fold_sum`), taking away and dividing never rise above the first
(`le_head_of_fold`).

A quotient is out of range only where the least number is divided by minus one. So it cannot
overflow here, and all that is left to fail on is a zero divisor (`fold_quotient_ne_overflow`).

Each of these is an invariant of a run, and what it takes of a step is a fact about the exact result
over the integers.
-/

namespace StringCalculator

theorem Number.not_isNegative_iff {n : Number} : ¬n.isNegative = true ↔ Number.zero ≤ n := by
  rw [isNegative, decide_eq_true_eq, Int.not_lt]
  rfl

namespace Operation

/-! ### Exact results -/

/-- Only a difference leads below zero. -/
theorem exact_nonneg {op : Operation} {a n : Int} (hop : op ≠ .difference) (ha : 0 ≤ a)
    (hn : 0 ≤ n) : 0 ≤ op.exact a n := by
  cases op with
  | sum => exact Int.add_nonneg ha hn
  | product => exact Int.mul_nonneg ha hn
  | difference => exact absurd rfl hop
  | quotient => exact Int.tdiv_nonneg ha hn

/-- A difference leads downwards. -/
theorem exact_difference_le {a n : Int} (hn : 0 ≤ n) : difference.exact a n ≤ a :=
  Int.sub_le_self a hn

/-- So does a quotient, from zero or above. -/
theorem exact_quotient_le {a n : Int} (ha : 0 ≤ a) : quotient.exact a n ≤ a :=
  Int.tdiv_le_self n ha

/-- A quotient that starts from zero or above is a number. -/
theorem ofInt?_exact_quotient_ne_none {a n : Number} (ha : Number.zero ≤ a)
    (hn : Number.zero ≤ n) : Number.ofInt? (quotient.exact a.toInt n.toInt) ≠ none := by
  rw [ne_eq, Number.ofInt?_eq_none_iff]
  have hlower : 0 ≤ quotient.exact a.toInt n.toInt := exact_nonneg (by decide) ha hn
  have hupper : quotient.exact a.toInt n.toInt ≤ a.toInt := exact_quotient_le ha
  have hmax := a.upper
  omega

/-! ### Folds -/

section

variable {op : Operation} {ns : List Number} {v : Number}

/-- Only a difference can fall below zero. -/
theorem zero_le_of_fold (hop : op ≠ .difference) (hns : ∀ n ∈ ns, Number.zero ≤ n)
    (h : op.fold ns = .ok v) : Number.zero ≤ v := by
  cases ns with
  | nil =>
    cases h
    exact Int.le_refl 0
  | cons n ns =>
    refine foldlM_step_induction (P := (Number.zero ≤ ·)) (fun a m r hm ha hr ↦ ?_)
      (hns n List.mem_cons_self) h
    show (0 : Int) ≤ r.toInt
    rw [toInt_of_step hr]
    exact exact_nonneg hop ha (hns m (List.mem_cons_of_mem n hm))

/-- A run of additions does not fall, and rises above all that is added. -/
theorem le_of_foldlM_sum {acc : Number} (hacc : Number.zero ≤ acc)
    (hns : ∀ n ∈ ns, Number.zero ≤ n) (h : ns.foldlM sum.step acc = .ok v) :
    acc ≤ v ∧ ∀ n ∈ ns, n ≤ v := by
  induction ns generalizing acc with
  | nil =>
    cases h
    exact ⟨Int.le_refl _, fun _ hn ↦ absurd hn List.not_mem_nil⟩
  | cons n ns ih =>
    obtain ⟨r, hr, hrun⟩ := foldlM_step_cons_eq_ok_iff.1 h
    have hexact : r.toInt = acc.toInt + n.toInt := toInt_of_step hr
    have hacc' : 0 ≤ acc.toInt := hacc
    have hn : 0 ≤ n.toInt := hns n List.mem_cons_self
    have hzero : Number.zero ≤ r := show (0 : Int) ≤ r.toInt by omega
    obtain ⟨hle, hall⟩ := ih hzero (fun m hm ↦ hns m (List.mem_cons_of_mem n hm)) hrun
    have hrv : r.toInt ≤ v.toInt := hle
    refine ⟨show acc.toInt ≤ v.toInt by omega, fun m hm ↦ ?_⟩
    rcases List.mem_cons.1 hm with rfl | hm
    · show m.toInt ≤ v.toInt
      omega
    · exact hall m hm

/-- A sum is no less than any of its operands. -/
theorem le_of_fold_sum (hns : ∀ n ∈ ns, Number.zero ≤ n) (h : sum.fold ns = .ok v) :
    ∀ n ∈ ns, n ≤ v := by
  cases ns with
  | nil => exact fun _ hn ↦ absurd hn List.not_mem_nil
  | cons n ns =>
    obtain ⟨hle, hall⟩ := le_of_foldlM_sum (hns n List.mem_cons_self)
      (fun m hm ↦ hns m (List.mem_cons_of_mem n hm)) h
    intro m hm
    rcases List.mem_cons.1 hm with rfl | hm
    · exact hle
    · exact hall m hm

/-- Differences and quotients do not rise above their first operand. -/
theorem le_head_of_fold (hop : op = .difference ∨ op = .quotient)
    (hns : ∀ n ∈ ns, Number.zero ≤ n) (h : op.fold ns = .ok v) : ∀ n ∈ ns.head?, v ≤ n := by
  cases ns with
  | nil => exact fun _ hn ↦ nomatch hn
  | cons n ns =>
    rintro _ ⟨⟩
    have hn : 0 ≤ n.toInt := hns n List.mem_cons_self
    -- a difference only has to stay below, while a quotient falls only from zero or above
    refine (foldlM_step_induction (P := fun r ↦ r ≤ n ∧ (op = .quotient → Number.zero ≤ r))
      (fun a m r hm ha hr ↦ ?_) ⟨Int.le_refl _, fun _ ↦ hn⟩ h).1
    have hm' : 0 ≤ m.toInt := hns m (List.mem_cons_of_mem n hm)
    have han : a.toInt ≤ n.toInt := ha.1
    have hexact := toInt_of_step hr
    rcases hop with rfl | rfl
    · have hle : difference.exact a.toInt m.toInt ≤ a.toInt := exact_difference_le hm'
      refine ⟨?_, nofun⟩
      show r.toInt ≤ n.toInt
      omega
    · have hzero : 0 ≤ quotient.exact a.toInt m.toInt := exact_nonneg (by decide) (ha.2 rfl) hm'
      have hle : quotient.exact a.toInt m.toInt ≤ a.toInt := exact_quotient_le (ha.2 rfl)
      refine ⟨?_, fun _ ↦ ?_⟩
      · show r.toInt ≤ n.toInt
        omega
      · show (0 : Int) ≤ r.toInt
        omega

/-- A quotient does not leave the range. -/
theorem fold_quotient_ne_overflow (hns : ∀ n ∈ ns, Number.zero ≤ n) (op' : Operation) :
    quotient.fold ns ≠ .error (.overflow op') := by
  intro h
  cases ns with
  | nil => cases h
  | cons n ns =>
    have hns' : ∀ m ∈ ns, Number.zero ≤ m := fun m hm ↦ hns m (List.mem_cons_of_mem n hm)
    obtain ⟨a, m, hm, ha, hfail⟩ := exists_step_of_foldlM_eq_error (P := (Number.zero ≤ ·))
      (fun a m r hm ha hr ↦ show (0 : Int) ≤ r.toInt from
        toInt_of_step hr ▸ exact_nonneg (by decide) ha (hns' m hm))
      (hns n List.mem_cons_self) h
    exact ofInt?_exact_quotient_ne_none ha (hns' m hm) (step_eq_overflow_iff.1 hfail).2.2

end

end Operation

end StringCalculator
