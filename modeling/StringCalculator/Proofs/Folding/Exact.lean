import StringCalculator.Proofs.Folding

/-!
# Folding and exact arithmetic

What a fold gives, told by arithmetic over the integers, where nothing is out of range.
`exactAfter` runs the operation over the integers without a check, and a step of that run fails
where it divides by zero or leaves the range (`FailsAt`). A fold comes to its end exactly if no step
fails, and then its value is the exact one (`foldlM_step_eq_ok_iff`). Otherwise it ends with the
fault of the first step that fails (`exists_firstFault_of_foldlM_eq_error`).

Behind a zero divisor the exact run goes on with whatever the integers have for it. No statement
depends on that: a step counts only where no step before it fails.

Both facts follow the recursion of the run. The first step fails or it does not, and if it does not
its result is exact, so the run of the later steps starts from the same integer as the fold does.
-/

namespace StringCalculator

namespace Number

/-- Whether an integer fits a number. -/
def InRange (i : Int) : Prop :=
  -9223372036854775808 ≤ i ∧ i ≤ 9223372036854775807

instance (i : Int) : Decidable (InRange i) :=
  inferInstanceAs (Decidable (_ ∧ _))

theorem inRange_toInt (n : Number) : InRange n.toInt :=
  ⟨n.lower, n.upper⟩

theorem exists_toInt_eq {i : Int} (h : InRange i) : ∃ n : Number, n.toInt = i :=
  ⟨⟨i, h.1, h.2⟩, rfl⟩

theorem ofInt?_eq_none_iff_not_inRange {i : Int} : ofInt? i = none ↔ ¬InRange i := by
  rw [ofInt?_eq_none_iff, InRange]
  omega

end Number

namespace Operation

/-! ### The exact run -/

/-- The exact result of the first `i` steps from `a`, over the integers and without a check. -/
def exactAfter (op : Operation) (a : Int) (ns : List Number) (i : Nat) : Int :=
  (ns.take i).foldl (fun a n ↦ op.exact a n.toInt) a

/-- Whether step `i` of the exact run from `a` fails: it divides by zero, or its result is out of
range. -/
def FailsAt (op : Operation) (a : Int) (ns : List Number) (i : Nat) : Prop :=
  ∃ n, ns[i]? = some n ∧
    (op = .quotient ∧ n = .zero ∨ ¬Number.InRange (op.exactAfter a ns (i + 1)))

/-- The fault of step `i` of the exact run from `a`, if that step fails. -/
inductive FaultAt (op : Operation) (a : Int) (ns : List Number) (i : Nat) : Fault → Prop
  /-- A quotient with a zero divisor, whose dividend is the exact result of the steps before. -/
  | divisor {dividend : Number} (hop : op = .quotient) (hn : ns[i]? = some .zero)
      (hdividend : dividend.toInt = op.exactAfter a ns i) :
      FaultAt op a ns i (.divisionByZero dividend)
  /-- Any other step that fails. -/
  | overflow (hdivisor : ¬(op = .quotient ∧ ns[i]? = some .zero)) :
      FaultAt op a ns i (.overflow op)

/-- Whether step `i` is the first of the exact run from `a` to fail, and `f` is its fault. -/
structure FirstFault (op : Operation) (a : Int) (ns : List Number) (i : Nat) (f : Fault) :
    Prop where
  /-- The step fails. -/
  fails : op.FailsAt a ns i
  /-- No step before it does. -/
  least : ∀ j < i, ¬op.FailsAt a ns j
  /-- The fault is that of the step. -/
  fault : op.FaultAt a ns i f

section

variable {op : Operation} {a : Int} {n acc v : Number} {ns : List Number} {i : Nat} {f : Fault}

/-- No step of the exact run fails exactly if no divisor is zero and every result is in range. -/
theorem forall_not_failsAt_iff (ha : Number.InRange a) :
    (∀ i, ¬op.FailsAt a ns i) ↔
      (op = .quotient → Number.zero ∉ ns) ∧
        ∀ i ≤ ns.length, Number.InRange (op.exactAfter a ns i) := by
  constructor
  · intro h
    refine ⟨fun hop hzero ↦ ?_, fun i hi ↦ ?_⟩
    · obtain ⟨i, hi⟩ := List.getElem?_of_mem hzero
      exact h i ⟨_, hi, Or.inl ⟨hop, rfl⟩⟩
    · cases i with
      | zero => exact ha
      | succ i =>
        exact Decidable.byContradiction fun hrange ↦
          h i ⟨ns[i], List.getElem?_eq_getElem hi, Or.inr hrange⟩
  · rintro ⟨hdivisors, hrange⟩ i ⟨n, hn, hfails⟩
    rcases hfails with ⟨hop, rfl⟩ | hfails
    · exact hdivisors hop (List.mem_of_getElem? hn)
    · obtain ⟨hi, -⟩ := List.getElem?_eq_some_iff.1 hn
      exact hfails (hrange (i + 1) hi)

/-! ### The first step -/

/-- A step that has a result does not fail in the exact run. -/
theorem not_failsAt_zero_of_step (h : op.step acc n = .ok v) (ns : List Number) :
    ¬op.FailsAt acc.toInt (n :: ns) 0 := by
  obtain ⟨hdivisor, hv⟩ := step_eq_ok_iff.1 h
  have hrange : Number.InRange (op.exact acc.toInt n.toInt) := hv ▸ v.inRange_toInt
  rintro ⟨_, ⟨⟩, hfails | hfails⟩
  · exact hdivisor hfails
  · exact hfails hrange

/-- A step that ends with a fault fails in the exact run, with that fault. -/
theorem firstFault_zero_of_step (h : op.step acc n = .error f) (ns : List Number) :
    op.FirstFault acc.toInt (n :: ns) 0 f := by
  cases f with
  | negatives ms => exact absurd h (op.step_ne_negatives acc n ms)
  | divisionByZero d =>
    obtain ⟨hop, hn, rfl⟩ := step_eq_divisionByZero_iff.1 h
    exact ⟨⟨n, rfl, Or.inl ⟨hop, hn⟩⟩, nofun, .divisor hop (congrArg some hn) rfl⟩
  | overflow op' =>
    obtain ⟨rfl, hdivisor, hnone⟩ := step_eq_overflow_iff.1 h
    have hrange := Number.ofInt?_eq_none_iff_not_inRange.1 hnone
    exact ⟨⟨n, rfl, Or.inr hrange⟩, nofun,
      .overflow fun ⟨hop, hn⟩ ↦ hdivisor ⟨hop, Option.some.inj hn⟩⟩

/-- The first fault behind a step that does not fail is one place further on. -/
theorem FirstFault.cons (hn : ¬op.FailsAt a (n :: ns) 0)
    (h : op.FirstFault (op.exact a n.toInt) ns i f) : op.FirstFault a (n :: ns) (i + 1) f := by
  refine ⟨h.fails, fun j hj ↦ ?_, ?_⟩
  · cases j with
    | zero => exact hn
    | succ j => exact h.least j (Nat.lt_of_succ_lt_succ hj)
  · cases h.fault with
    | divisor hop hzero hdividend => exact .divisor hop hzero hdividend
    | overflow hdivisor => exact .overflow hdivisor

/-! ### Runs -/

/-- A run ends with a value exactly if no step of the exact run fails, and the value is exact. -/
theorem foldlM_step_eq_ok_iff :
    ns.foldlM op.step acc = .ok v ↔
      (∀ i, ¬op.FailsAt acc.toInt ns i) ∧ v.toInt = op.exactAfter acc.toInt ns ns.length := by
  induction ns generalizing acc with
  | nil =>
    constructor
    · intro h
      cases h
      exact ⟨fun _ ⟨_, hn, _⟩ ↦ (nomatch hn), rfl⟩
    · rintro ⟨-, hv⟩
      exact congrArg Except.ok (Number.ext hv.symm)
  | cons n ns ih =>
    rw [foldlM_step_cons_eq_ok_iff]
    constructor
    · rintro ⟨r, hr, hrun⟩
      obtain ⟨hlater, hv⟩ := ih.1 hrun
      rw [toInt_of_step hr] at hlater hv
      refine ⟨fun i ↦ ?_, hv⟩
      cases i with
      | zero => exact not_failsAt_zero_of_step hr ns
      | succ i => exact hlater i
    · rintro ⟨hnone, hv⟩
      rcases hr : op.step acc n with f | r
      · exact absurd (firstFault_zero_of_step hr ns).fails (hnone 0)
      · refine ⟨r, rfl, ih.2 ?_⟩
        rw [toInt_of_step hr]
        exact ⟨fun i ↦ hnone (i + 1), hv⟩

/-- A run that fails ends with the fault of the first step that fails in the exact run. -/
theorem exists_firstFault_of_foldlM_eq_error (h : ns.foldlM op.step acc = .error f) :
    ∃ i, op.FirstFault acc.toInt ns i f := by
  induction ns generalizing acc with
  | nil => cases h
  | cons n ns ih =>
    rcases foldlM_step_cons_eq_error_iff.1 h with hfail | ⟨r, hr, hrun⟩
    · exact ⟨0, firstFault_zero_of_step hfail ns⟩
    · obtain ⟨i, hi⟩ := ih hrun
      rw [toInt_of_step hr] at hi
      exact ⟨i + 1, hi.cons (not_failsAt_zero_of_step hr ns)⟩

end

/-! ### Folding up to a bound -/

/-- **A fold agrees with exact arithmetic and fails at the first bad step.** If no number stays
within the bound, the value is zero. Otherwise the fold has a value exactly if no divisor is zero
and every exact result is in range; the value is then the last exact result, and the operands are
all that stays within the bound. A fold that fails has the fault of the first step that fails: a
zero divisor, with the exact result before it as the dividend, or else a result out of range.
Numbers above the bound make no difference. -/
theorem foldUpTo_exact (op : Operation) (bound : Number) (ns : List Number) :
    ((ns.filter fun n ↦ decide (n ≤ bound)) = [] →
        op.foldUpTo bound ns = .ok (Evaluation.empty op)) ∧
      (∀ x rest, (ns.filter fun n ↦ decide (n ≤ bound)) = x :: rest →
        ((∃ e, op.foldUpTo bound ns = .ok e) ↔
            (op = .quotient → Number.zero ∉ rest) ∧
              ∀ i ≤ rest.length, Number.InRange (op.exactAfter x.toInt rest i)) ∧
          (∀ e, op.foldUpTo bound ns = .ok e →
            e.value.toInt = op.exactAfter x.toInt rest rest.length ∧ e.operands = x :: rest ∧
              e.operation = op) ∧
          ∀ f, op.foldUpTo bound ns = .error f → ∃ i, op.FirstFault x.toInt rest i f) ∧
      ∀ ms : List Number,
        (ms.filter fun n ↦ decide (n ≤ bound)) = (ns.filter fun n ↦ decide (n ≤ bound)) →
          op.foldUpTo bound ms = op.foldUpTo bound ns := by
  refine ⟨fun hnil ↦ ?_, fun x rest hkept ↦ ⟨?_, fun e he ↦ ?_, fun f hf ↦ ?_⟩, fun ms hms ↦ ?_⟩
  · exact foldUpTo_eq_ok_iff.2 ⟨rfl, hnil.symm, rfl⟩
  · rw [← forall_not_failsAt_iff x.inRange_toInt]
    constructor
    · rintro ⟨e, he⟩
      obtain ⟨-, hoperands, hfold⟩ := foldUpTo_eq_ok_iff.1 he
      rw [hoperands, hkept] at hfold
      exact (foldlM_step_eq_ok_iff.1 hfold).1
    · intro hnone
      have hrange := ((forall_not_failsAt_iff x.inRange_toInt).1 hnone).2
      obtain ⟨v, hv⟩ := Number.exists_toInt_eq (hrange rest.length (Nat.le_refl _))
      exact ⟨⟨v, x :: rest, op⟩, foldUpTo_eq_ok_iff.2
        ⟨rfl, hkept.symm, foldlM_step_eq_ok_iff.2 ⟨hnone, hv⟩⟩⟩
  · obtain ⟨hop, hoperands, hfold⟩ := foldUpTo_eq_ok_iff.1 he
    rw [hkept] at hoperands
    rw [hoperands] at hfold
    exact ⟨(foldlM_step_eq_ok_iff.1 hfold).2, hoperands, hop⟩
  · have hfold := foldUpTo_eq_error_iff.1 hf
    rw [hkept] at hfold
    exact exists_firstFault_of_foldlM_eq_error hfold
  · rw [foldUpTo, foldUpTo, hms]

/-- A quotient of -7 by 2, rounded toward zero, and then by zero. The number above the bound is no
divisor. A product that stays in range to its end, negative numbers and all. And a difference whose
second step goes below the range by one, though the third would come back into it. -/
theorem foldUpTo_exact_quotient :
    ((¬∃ e, quotient.foldUpTo .thousand (["-7", "5000", "2", "0"].map Number.ofToken) = .ok e) ∧
      ∃ i, quotient.FirstFault (-7) (["2", "0"].map Number.ofToken) i
        (.divisionByZero (Number.ofToken "-3"))) ∧
      (∃ e, product.foldUpTo .thousand (["-3", "1001", "5", "-7"].map Number.ofToken) = .ok e ∧
        e.value.toInt = 105 ∧ e.operands = ["-3", "5", "-7"].map Number.ofToken) ∧
      (¬∃ e, difference.foldUpTo .thousand
        (["-9223372036854775807", "1", "1", "-2"].map Number.ofToken) = .ok e) ∧
      difference.foldUpTo .thousand
        (["-9223372036854775807", "1", "1", "-2"].map Number.ofToken) =
          .error (.overflow .difference) ∧
      ∃ i, difference.FirstFault (-9223372036854775807) (["1", "1", "-2"].map Number.ofToken) i
        (.overflow .difference) := by
  refine ⟨?_, ?_, ?_⟩
  · obtain ⟨-, hkept, -⟩ :=
      foldUpTo_exact quotient .thousand (["-7", "5000", "2", "0"].map Number.ofToken)
    obtain ⟨hok, -, herror⟩ :=
      hkept (Number.ofToken "-7") (["2", "0"].map Number.ofToken) (by decide +kernel)
    exact ⟨fun h ↦ (hok.1 h).1 rfl (by decide +kernel),
      herror (.divisionByZero (Number.ofToken "-3")) (by rfl)⟩
  · obtain ⟨-, hkept, -⟩ :=
      foldUpTo_exact product .thousand (["-3", "1001", "5", "-7"].map Number.ofToken)
    obtain ⟨hok, hvalue, -⟩ :=
      hkept (Number.ofToken "-3") (["5", "-7"].map Number.ofToken) (by decide +kernel)
    obtain ⟨e, he⟩ := hok.2 ⟨nofun, by decide +kernel⟩
    obtain ⟨hv, hoperands, -⟩ := hvalue e he
    exact ⟨e, he, hv.trans (by decide +kernel), hoperands⟩
  · obtain ⟨-, hkept, -⟩ := foldUpTo_exact difference .thousand
      (["-9223372036854775807", "1", "1", "-2"].map Number.ofToken)
    obtain ⟨hok, -, herror⟩ := hkept (Number.ofToken "-9223372036854775807")
      (["1", "1", "-2"].map Number.ofToken) (by decide +kernel)
    have hfold : difference.foldUpTo .thousand
        (["-9223372036854775807", "1", "1", "-2"].map Number.ofToken) =
          .error (.overflow .difference) := by rfl
    exact ⟨fun h ↦ absurd ((hok.1 h).2 2 (by decide)) (by decide +kernel), hfold,
      herror _ hfold⟩

end Operation

end StringCalculator
