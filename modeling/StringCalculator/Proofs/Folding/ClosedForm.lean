import Mathlib.Algebra.Ring.Int.Defs
import StringCalculator.Proofs.Folding.Exact

/-!
# Folds in closed form

What a fold comes to in one expression: the sum or product of all its numbers, the first number less
the sum of the others, or the first number divided by the product of the others
(`foldl_exact_eq_closedForm`). The last rests on one fact about rounding toward zero, that dividing
in turn is dividing once by the product (`tdiv_tdiv`). It holds for divisors of either sign, and the
product may be of any size.

Of the quotients of two numbers only one is out of range: the least number by minus one. Dividing
the least number by anything but one and minus one leaves at most half of it, so it is never met
again. This fixes the shape of every list of numbers on which dividing overflows (`NegatesLeast`).
-/

namespace StringCalculator

/-! ### Rounding toward zero -/

/-- Dividing in turn is dividing by the product, though each quotient is rounded. -/
theorem tdiv_tdiv (a b c : Int) : (a.tdiv b).tdiv c = a.tdiv (b * c) := by
  -- signs can be moved out of a quotient, and rounding down is rounding toward zero without them
  have hnat : ∀ k m n : Nat, ((k : Int).tdiv m).tdiv n = (k : Int).tdiv (m * n) := fun k m n ↦ by
    rw [← Int.ofNat_tdiv, ← Int.ofNat_tdiv, Nat.div_div_eq_div_mul, Int.ofNat_tdiv, Int.natCast_mul]
  obtain ⟨k, rfl | rfl⟩ := a.eq_nat_or_neg <;> obtain ⟨m, rfl | rfl⟩ := b.eq_nat_or_neg <;>
    obtain ⟨n, rfl | rfl⟩ := c.eq_nat_or_neg <;>
    simp only [Int.neg_tdiv, Int.tdiv_neg, Int.neg_mul, Int.mul_neg, Int.neg_neg, hnat]

/-- Dividing by anything but zero, one and minus one leaves at most half. -/
theorem two_mul_natAbs_tdiv_le {a b : Int} (hb : 2 ≤ b.natAbs) :
    2 * (a.tdiv b).natAbs ≤ a.natAbs := by
  rw [Int.natAbs_tdiv]
  exact Nat.le_trans (Nat.mul_le_mul_right _ hb) (Nat.mul_div_le _ _)

/-- What a quotient can be, by the size of the divisor. -/
theorem tdiv_cases (a b : Int) :
    b = 0 ∧ a.tdiv b = 0 ∨ b = 1 ∧ a.tdiv b = a ∨ b = -1 ∧ a.tdiv b = -a ∨
      2 ≤ b.natAbs ∧ 2 * (a.tdiv b).natAbs ≤ a.natAbs := by
  obtain rfl | rfl | rfl | hb : b = 0 ∨ b = 1 ∨ b = -1 ∨ 2 ≤ b.natAbs := by omega
  · exact Or.inl ⟨rfl, Int.tdiv_zero a⟩
  · exact Or.inr (Or.inl ⟨rfl, Int.tdiv_one a⟩)
  · exact Or.inr (Or.inr (Or.inl ⟨rfl, by rw [Int.tdiv_neg, Int.tdiv_one]⟩))
  · exact Or.inr (Or.inr (Or.inr ⟨hb, two_mul_natAbs_tdiv_le hb⟩))

namespace Number

variable {a n : Number}

/-- Two numbers have a quotient that is no number only if they are the least number and minus
one. -/
theorem not_inRange_tdiv_iff :
    ¬InRange (a.toInt.tdiv n.toInt) ↔ a.toInt = -9223372036854775808 ∧ n.toInt = -1 := by
  obtain ⟨hlower, hupper⟩ := a.inRange_toInt
  have hcases := tdiv_cases a.toInt n.toInt
  rw [InRange]
  omega

/-- The least number is a quotient only of itself by one. -/
theorem tdiv_eq_least_iff :
    a.toInt.tdiv n.toInt = -9223372036854775808 ↔
      a.toInt = -9223372036854775808 ∧ n.toInt = 1 := by
  obtain ⟨hlower, hupper⟩ := a.inRange_toInt
  have hcases := tdiv_cases a.toInt n.toInt
  omega

end Number

namespace Operation

/-! ### Values -/

/-- What an operation makes of an integer and further numbers, in one expression. -/
def closedForm (op : Operation) (a : Int) (ns : List Number) : Int :=
  match op with
  | sum => a + (ns.map Number.toInt).sum
  | product => a * (ns.map Number.toInt).prod
  | difference => a - (ns.map Number.toInt).sum
  | quotient => a.tdiv (ns.map Number.toInt).prod

theorem closedForm_nil (op : Operation) (a : Int) : op.closedForm a [] = a := by
  cases op <;> simp [closedForm]

/-- The first of the further numbers can be taken in by a step. -/
theorem closedForm_cons (op : Operation) (a : Int) (n : Number) (ns : List Number) :
    op.closedForm a (n :: ns) = op.closedForm (op.exact a n.toInt) ns := by
  cases op with
  | sum => simp only [closedForm, exact, List.map_cons, List.sum_cons, Int.add_assoc]
  | product => simp only [closedForm, exact, List.map_cons, List.prod_cons, Int.mul_assoc]
  | difference => simp only [closedForm, exact, List.map_cons, List.sum_cons, Int.sub_sub]
  | quotient => simp only [closedForm, exact, List.map_cons, List.prod_cons, tdiv_tdiv]

/-- The exact run ends at the closed form. -/
theorem foldl_exact_eq_closedForm (op : Operation) (a : Int) (ns : List Number) :
    ns.foldl (fun a n ↦ op.exact a n.toInt) a = op.closedForm a ns := by
  induction ns generalizing a with
  | nil => exact (closedForm_nil op a).symm
  | cons n ns ih => rw [List.foldl_cons, ih, closedForm_cons]

section

variable {op op' : Operation} {acc d n v x : Number} {ns rest : List Number}

/-- A run that succeeds ends at the closed form. -/
theorem toInt_of_foldlM_step (h : ns.foldlM op.step acc = .ok v) :
    v.toInt = op.closedForm acc.toInt ns := by
  rw [(foldlM_step_eq_ok_iff.1 h).2, exactAfter, List.take_length, foldl_exact_eq_closedForm]

/-! ### Quotients out of range -/

/-- Whether divisors negate the least number: the number they divide is the least one, and there is
a minus one among them with only ones before it. -/
def NegatesLeast (x : Number) (ns : List Number) : Prop :=
  x.toInt = -9223372036854775808 ∧
    ∃ before n after, ns = before ++ n :: after ∧ n.toInt = -1 ∧ ∀ m ∈ before, m.toInt = 1

theorem not_negatesLeast_nil : ¬NegatesLeast x [] := by
  rintro ⟨-, before, n, after, h, -⟩
  exact List.append_ne_nil_of_right_ne_nil before (List.cons_ne_nil _ _) h.symm

/-- The least number is negated by the first divisor, or that one is 1 and it is negated later. -/
theorem negatesLeast_cons_iff :
    NegatesLeast x (n :: ns) ↔
      x.toInt = -9223372036854775808 ∧ n.toInt = -1 ∨ n.toInt = 1 ∧ NegatesLeast x ns := by
  constructor
  · rintro ⟨hx, before, m, after, h, hm, hbefore⟩
    cases before with
    | nil =>
      obtain ⟨rfl, -⟩ := List.cons.inj h
      exact Or.inl ⟨hx, hm⟩
    | cons b before =>
      obtain ⟨rfl, rfl⟩ := List.cons.inj h
      exact Or.inr ⟨hbefore n List.mem_cons_self, hx, before, m, after, rfl, hm,
        fun k hk ↦ hbefore k (List.mem_cons_of_mem n hk)⟩
  · rintro (⟨hx, hn⟩ | ⟨hn, hx, before, m, after, rfl, hm, hbefore⟩)
    · exact ⟨hx, [], n, ns, rfl, hn, fun _ hk ↦ absurd hk List.not_mem_nil⟩
    · exact ⟨hx, n :: before, m, after, rfl, hm, List.forall_mem_cons.2 ⟨hn, hbefore⟩⟩

/-- The one quotient out of range is that of the least number by -1. -/
theorem step_quotient_eq_overflow_iff :
    quotient.step acc n = .error (.overflow op') ↔
      op' = .quotient ∧ acc.toInt = -9223372036854775808 ∧ n.toInt = -1 := by
  rw [step_eq_overflow_iff, Number.ofInt?_eq_none_iff_not_inRange]
  constructor
  · rintro ⟨hop', -, hrange⟩
    exact ⟨hop', Number.not_inRange_tdiv_iff.1 hrange⟩
  · rintro ⟨hop', hout⟩
    refine ⟨hop', ?_, Number.not_inRange_tdiv_iff.2 hout⟩
    rintro ⟨-, rfl⟩
    exact absurd hout.2 (by decide)

theorem step_quotient_of_toInt_eq_one (hn : n.toInt = 1) : quotient.step acc n = .ok acc := by
  refine step_eq_ok_iff.2 ⟨?_, ?_⟩
  · rintro ⟨-, rfl⟩
    exact absurd hn (by decide)
  · rw [exact, hn, Int.tdiv_one]

/-- The least number is left only where it was divided by one. -/
theorem NegatesLeast.of_step {r : Number} (hr : quotient.step acc n = .ok r)
    (h : NegatesLeast r ns) : n.toInt = 1 ∧ NegatesLeast acc ns := by
  have hleast : acc.toInt.tdiv n.toInt = -9223372036854775808 := (toInt_of_step hr).symm.trans h.1
  obtain ⟨hacc, hn⟩ := Number.tdiv_eq_least_iff.1 hleast
  exact ⟨hn, hacc, h.2⟩

/-- Dividing in turn overflows on no other lists. -/
theorem foldlM_quotient_eq_overflow_iff :
    ns.foldlM quotient.step acc = .error (.overflow op') ↔
      op' = .quotient ∧ NegatesLeast acc ns := by
  induction ns generalizing acc with
  | nil => exact ⟨nofun, fun h ↦ absurd h.2 not_negatesLeast_nil⟩
  | cons n ns ih =>
    rw [foldlM_step_cons_eq_error_iff, negatesLeast_cons_iff]
    constructor
    · rintro (hfail | ⟨r, hr, hrun⟩)
      · obtain ⟨hop', hout⟩ := step_quotient_eq_overflow_iff.1 hfail
        exact ⟨hop', Or.inl hout⟩
      · obtain ⟨hop', hnegates⟩ := ih.1 hrun
        exact ⟨hop', Or.inr (hnegates.of_step hr)⟩
    · rintro ⟨hop', hout | ⟨hn, hnegates⟩⟩
      · exact Or.inl (step_quotient_eq_overflow_iff.2 ⟨hop', hout⟩)
      · exact Or.inr ⟨acc, step_quotient_of_toInt_eq_one hn, ih.2 ⟨hop', hnegates⟩⟩

/-! ### Zero divisors -/

/-- The dividend of the first zero divisor is the quotient by all that is before it. -/
theorem toInt_of_foldlM_quotient_eq_divisionByZero {before after : List Number}
    (hbefore : Number.zero ∉ before)
    (h : (before ++ .zero :: after).foldlM quotient.step acc = .error (.divisionByZero d)) :
    d.toInt = quotient.closedForm acc.toInt before := by
  induction before generalizing acc with
  | nil =>
    rw [List.nil_append] at h
    rcases foldlM_step_cons_eq_error_iff.1 h with hfail | ⟨_, hr, -⟩
    · rw [(step_eq_divisionByZero_iff.1 hfail).2.2, closedForm_nil]
    · exact absurd hr nofun
  | cons n before ih =>
    rw [List.mem_cons, not_or] at hbefore
    rw [List.cons_append] at h
    rcases foldlM_step_cons_eq_error_iff.1 h with hfail | ⟨r, hr, hrun⟩
    · exact absurd (step_eq_divisionByZero_iff.1 hfail).2.1.symm hbefore.1
    · rw [ih hbefore.2 hrun, closedForm_cons, toInt_of_step hr]

/-- Dividing in turn meets a zero divisor wherever there is one, unless it overflows before. -/
theorem exists_foldlM_quotient_eq_divisionByZero_iff :
    (∃ d, ns.foldlM quotient.step acc = .error (.divisionByZero d)) ↔
      ¬NegatesLeast acc ns ∧ Number.zero ∈ ns := by
  constructor
  · rintro ⟨d, h⟩
    refine ⟨fun hnegates ↦ ?_, ?_⟩
    · rw [foldlM_quotient_eq_overflow_iff.2 ⟨rfl, hnegates⟩] at h
      cases h
    · obtain ⟨_, n, hn, -, hfail⟩ :=
        exists_step_of_foldlM_eq_error (P := fun _ ↦ True) (fun _ _ _ _ _ _ ↦ trivial) trivial h
      exact (step_eq_divisionByZero_iff.1 hfail).2.1 ▸ hn
  · rintro ⟨hnegates, hzero⟩
    rcases hrun : ns.foldlM quotient.step acc with f | v
    · cases f with
      | negatives ms => exact absurd hrun (fold_ne_negatives quotient (acc :: ns) ms)
      | divisionByZero d => exact ⟨d, rfl⟩
      | overflow op' => exact absurd (foldlM_quotient_eq_overflow_iff.1 hrun).2 hnegates
    · have hnone := (foldlM_step_eq_ok_iff.1 hrun).1
      exact absurd hzero (((forall_not_failsAt_iff acc.inRange_toInt).1 hnone).1 rfl)

end

/-! ### Folding up to a bound -/

/-- **The closed forms of the folds.** With the numbers that stay within the bound given as `x` and
`rest`, a fold that has a value has that of the closed form. A quotient overflows exactly if it
negates the least number. It divides by zero exactly if it does not overflow and there is a zero
among its divisors; the dividend is then `x` divided by the product of the divisors before the first
zero, rounded toward zero once. -/
theorem foldUpTo_closedForm (op : Operation) (bound x : Number) (ns rest : List Number)
    (hkept : (ns.filter fun n ↦ decide (n ≤ bound)) = x :: rest) :
    (∀ e, op.foldUpTo bound ns = .ok e → e.value.toInt = op.closedForm x.toInt rest) ∧
      (∀ op', quotient.foldUpTo bound ns = .error (.overflow op') ↔
        op' = .quotient ∧ NegatesLeast x rest) ∧
      ((∃ d, quotient.foldUpTo bound ns = .error (.divisionByZero d)) ↔
        ¬NegatesLeast x rest ∧ Number.zero ∈ rest) ∧
      ∀ d before after, quotient.foldUpTo bound ns = .error (.divisionByZero d) →
        rest = before ++ .zero :: after → Number.zero ∉ before →
          d.toInt = x.toInt.tdiv (before.map Number.toInt).prod := by
  refine ⟨fun e he ↦ ?_, fun op' ↦ ?_, ?_, fun d before after hd hrest hbefore ↦ ?_⟩
  · obtain ⟨-, hoperands, hfold⟩ := foldUpTo_eq_ok_iff.1 he
    rw [hoperands, hkept] at hfold
    exact toInt_of_foldlM_step hfold
  · rw [foldUpTo_eq_error_iff, hkept]
    exact foldlM_quotient_eq_overflow_iff
  · simp only [foldUpTo_eq_error_iff, hkept]
    exact exists_foldlM_quotient_eq_divisionByZero_iff
  · rw [foldUpTo_eq_error_iff, hkept] at hd
    subst hrest
    exact toInt_of_foldlM_quotient_eq_divisionByZero hbefore hd

/-- The least number is divided by one and then by minus one. The zero behind them is not met, and
the number above the bound is no divisor. -/
theorem foldUpTo_closedForm_least :
    ((["-9223372036854775808", "5000", "1", "-1", "0"].map Number.ofToken).filter fun n ↦
        decide (n ≤ .thousand)) =
      Number.ofToken "-9223372036854775808" :: ["1", "-1", "0"].map Number.ofToken ∧
    quotient.foldUpTo .thousand
        (["-9223372036854775808", "5000", "1", "-1", "0"].map Number.ofToken) =
      .error (.overflow .quotient) := by
  have hkept : ((["-9223372036854775808", "5000", "1", "-1", "0"].map Number.ofToken).filter
      fun n ↦ decide (n ≤ .thousand)) =
      Number.ofToken "-9223372036854775808" :: ["1", "-1", "0"].map Number.ofToken := by
    decide +kernel
  have hnegates : NegatesLeast (Number.ofToken "-9223372036854775808")
      (["1", "-1", "0"].map Number.ofToken) :=
    ⟨by decide +kernel, [Number.ofToken "1"], Number.ofToken "-1", [Number.ofToken "0"], rfl,
      by decide +kernel, by decide +kernel⟩
  obtain ⟨-, hoverflow, -⟩ := foldUpTo_closedForm quotient .thousand _ _ _ hkept
  exact ⟨hkept, (hoverflow .quotient).2 ⟨rfl, hnegates⟩⟩

end Operation

end StringCalculator
