import Mathlib.Algebra.BigOperators.Group.List.Basic
import Mathlib.Algebra.Order.BigOperators.Group.List
import Mathlib.Algebra.Order.BigOperators.GroupWithZero.List
import Mathlib.Algebra.Order.Ring.Int
import StringCalculator.Proofs.Folding.Nonnegative
import StringCalculator.Proofs.Folding.Progress

/-!
# Folds and the order of their numbers

What a fold owes to the order of the numbers. The closed form of a list does not depend on it, apart
from the first number where numbers are taken away or divided (`Reordered`). So two orders that both
have a value have the same one (`Reordered.total_eq`).

Whether there is a value does depend on the order, since a fold is checked at every step: one order
may leave the range and come back, and another one stay inside. Without negative numbers a fold
never comes back. Its results move one way, so they are in range if the last one is, and that is the
closed form again (`exists_fold_eq_ok_iff`). A zero among factors has to be kept out, as it brings
back any product. A quotient only shrinks, and fails on a zero divisor wherever it stands.
-/

namespace StringCalculator

namespace Operation

/-- Whether two lists differ only in an order that does not matter to an operation: the first number
stays where it is if the others are taken from it or divide it. -/
def Reordered (op : Operation) (ns ms : List Number) : Prop :=
  match op with
  | sum | product => ns.Perm ms
  | difference | quotient => ns.head? = ms.head? ∧ ns.tail.Perm ms.tail

section

variable {op : Operation} {ns ms : List Number}

/-! ### What does not depend on the order -/

/-- Where the first number is kept, both lists are empty or begin with it. -/
theorem eq_nil_or_exists_of_head?_eq (hhead : ns.head? = ms.head?) (htail : ns.tail.Perm ms.tail) :
    ns = [] ∧ ms = [] ∨ ∃ x rest rest', ns = x :: rest ∧ ms = x :: rest' ∧ rest.Perm rest' := by
  rcases ns with - | ⟨x, rest⟩ <;> rcases ms with - | ⟨y, rest'⟩
  · exact Or.inl ⟨rfl, rfl⟩
  · exact absurd hhead nofun
  · exact absurd hhead nofun
  · obtain rfl := Option.some.inj hhead
    exact Or.inr ⟨x, rest, rest', rfl, rfl, htail⟩

theorem Reordered.perm (h : op.Reordered ns ms) : ns.Perm ms := by
  cases op with
  | sum => exact h
  | product => exact h
  | difference | quotient =>
    obtain ⟨rfl, rfl⟩ | ⟨x, rest, rest', rfl, rfl, hperm⟩ := eq_nil_or_exists_of_head?_eq h.1 h.2
    · exact List.Perm.refl _
    · exact hperm.cons x

/-- The closed form of all numbers is the same. -/
theorem Reordered.total_eq (h : op.Reordered ns ms) : op.total ns = op.total ms := by
  have hperm := h.perm.map Number.toInt
  cases op with
  | sum => rw [total_sum, total_sum, hperm.sum_eq]
  | product =>
    by_cases hnil : ns = []
    · subst hnil
      rw [List.nil_perm.1 h.perm]
    · have hnil' : ms ≠ [] := fun hms ↦ hnil (List.perm_nil.1 (hms ▸ h.perm))
      rw [total_product_of_ne_nil hnil, total_product_of_ne_nil hnil', hperm.prod_eq]
  | difference =>
    obtain ⟨rfl, rfl⟩ | ⟨x, rest, rest', rfl, rfl, hrest⟩ := eq_nil_or_exists_of_head?_eq h.1 h.2
    · rfl
    · show x.toInt - _ = x.toInt - _
      rw [(hrest.map Number.toInt).sum_eq]
  | quotient =>
    obtain ⟨rfl, rfl⟩ | ⟨x, rest, rest', rfl, rfl, hrest⟩ := eq_nil_or_exists_of_head?_eq h.1 h.2
    · rfl
    · show x.toInt.tdiv _ = x.toInt.tdiv _
      rw [(hrest.map Number.toInt).prod_eq]

end

/-! ### Without negative numbers -/

/-- Whether numbers lead a fold one way only: none is negative, and no factor is zero. -/
structure Steady (op : Operation) (ns : List Number) : Prop where
  /-- No number is negative. -/
  nonneg : ∀ n ∈ ns, Number.zero ≤ n
  /-- No factor is zero. -/
  no_zero_factor : op = .product → Number.zero ∉ ns

section

variable {op : Operation} {bound acc n : Number} {ns ms : List Number} {f : Fault} {a : Int}

theorem Steady.tail (h : op.Steady (n :: ns)) : op.Steady ns :=
  ⟨fun m hm ↦ h.nonneg m (List.mem_cons_of_mem n hm),
    fun hop hmem ↦ h.no_zero_factor hop (List.mem_cons_of_mem n hmem)⟩

theorem Steady.sum_nonneg (h : op.Steady ns) : 0 ≤ (ns.map Number.toInt).sum := by
  refine List.sum_nonneg fun i hi ↦ ?_
  obtain ⟨n, hn, rfl⟩ := List.mem_map.1 hi
  exact h.nonneg n hn

theorem Steady.one_le_prod (h : product.Steady ns) : 1 ≤ (ns.map Number.toInt).prod := by
  refine List.one_le_prod fun i hi ↦ ?_
  obtain ⟨n, hn, rfl⟩ := List.mem_map.1 hi
  have hzero : 0 ≤ n.toInt := h.nonneg n hn
  have hne : n.toInt ≠ 0 := fun heq ↦
    h.no_zero_factor rfl ((Number.ext heq : n = Number.zero) ▸ hn)
  omega

/-- A step leads no further than all steps together. -/
theorem Steady.inRange_exact (hop : op ≠ .quotient) (h : op.Steady (n :: ns))
    (ha : Number.InRange a) (hfactor : op = .product → 0 ≤ a)
    (hrange : Number.InRange (op.closedForm (op.exact a n.toInt) ns)) :
    Number.InRange (op.exact a n.toInt) := by
  have hn : 0 ≤ n.toInt := h.nonneg n List.mem_cons_self
  have hsum := h.tail.sum_nonneg
  obtain ⟨halower, haupper⟩ := ha
  obtain ⟨hlower, hupper⟩ := hrange
  cases op with
  | sum =>
    have hupper : a + n.toInt + (ns.map Number.toInt).sum ≤ 9223372036854775807 := hupper
    show -9223372036854775808 ≤ a + n.toInt ∧ a + n.toInt ≤ 9223372036854775807
    omega
  | product =>
    have hupper : a * n.toInt * (ns.map Number.toInt).prod ≤ 9223372036854775807 := hupper
    have hzero : 0 ≤ a * n.toInt := Int.mul_nonneg (hfactor rfl) hn
    have hself : a * n.toInt ≤ a * n.toInt * (ns.map Number.toInt).prod :=
      le_mul_of_one_le_right hzero h.tail.one_le_prod
    show -9223372036854775808 ≤ a * n.toInt ∧ a * n.toInt ≤ 9223372036854775807
    omega
  | difference =>
    have hlower : -9223372036854775808 ≤ a - n.toInt - (ns.map Number.toInt).sum := hlower
    show -9223372036854775808 ≤ a - n.toInt ∧ a - n.toInt ≤ 9223372036854775807
    omega
  | quotient => exact absurd rfl hop

/-- A run that leads one way comes to its end if the end is in range. -/
theorem exists_foldlM_step_eq_ok_of_steady (hop : op ≠ .quotient) (hns : op.Steady ns)
    (hfactor : op = .product → Number.zero ≤ acc)
    (hrange : Number.InRange (op.closedForm acc.toInt ns)) :
    ∃ v, ns.foldlM op.step acc = .ok v := by
  refine exists_foldlM_step_eq_ok (P := fun a ms ↦ op.Steady ms ∧ Number.InRange a ∧
    (op = .product → 0 ≤ a) ∧ Number.InRange (op.closedForm a ms)) (fun a n ms h ↦ ?_)
    ⟨hns, acc.inRange_toInt, hfactor, hrange⟩
  obtain ⟨hms, ha, hfactor, hrange⟩ := h
  rw [closedForm_cons] at hrange
  have hn : Number.zero ≤ n := hms.nonneg n List.mem_cons_self
  have hnext : Number.InRange (op.exact a n.toInt) := hms.inRange_exact hop ha hfactor hrange
  refine ⟨fun hdivisor ↦ hop hdivisor.1, hnext, hms.tail, hnext, fun hproduct ↦ ?_, hrange⟩
  exact exact_nonneg (hproduct ▸ nofun) (hfactor hproduct) hn

/-- Without negative numbers each operation has one way to fail. -/
theorem fault_of_fold_eq_error (hns : ∀ n ∈ ns, Number.zero ≤ n) (h : op.fold ns = .error f) :
    op ≠ .quotient ∧ f = .overflow op ∨ op = .quotient ∧ ∃ d, f = .divisionByZero d := by
  by_cases hop : op = .quotient
  · subst hop
    match f, h with
    | .negatives ms, h => exact absurd h (fold_ne_negatives quotient ns ms)
    | .divisionByZero d, _ => exact Or.inr ⟨rfl, d, rfl⟩
    | .overflow op', h => exact absurd h (fold_quotient_ne_overflow hns op')
  · exact Or.inl ⟨hop, eq_overflow_of_fold_eq_error hop h⟩

/-- A quotient without negative numbers fails on a zero divisor and on nothing else. -/
theorem exists_fold_quotient_eq_ok_iff (hns : ∀ n ∈ ns, Number.zero ≤ n) :
    (∃ v, quotient.fold ns = .ok v) ↔ Number.zero ∉ ns.tail := by
  match ns, hns with
  | [], _ => exact iff_of_true ⟨_, rfl⟩ List.not_mem_nil
  | x :: rest, hns =>
    have hx : 0 ≤ x.toInt := hns x List.mem_cons_self
    have hleast : ¬NegatesLeast x rest := fun h ↦ by
      have hx' := h.1
      omega
    have hdivision : (∃ d, quotient.fold (x :: rest) = .error (.divisionByZero d)) ↔
        Number.zero ∈ rest :=
      exists_foldlM_quotient_eq_divisionByZero_iff.trans (and_iff_right hleast)
    show _ ↔ Number.zero ∉ rest
    rw [← hdivision]
    rcases hfold : quotient.fold (x :: rest) with f | v
    · obtain ⟨hop, -⟩ | ⟨-, d, rfl⟩ := fault_of_fold_eq_error hns hfold
      · exact absurd rfl hop
      · exact iff_of_false (fun ⟨_, h⟩ ↦ nomatch h) (not_not_intro ⟨d, rfl⟩)
    · exact iff_of_true ⟨v, rfl⟩ fun ⟨_, h⟩ ↦ nomatch h

/-- Any other fold that leads one way fails where the closed form is out of range. -/
theorem exists_fold_eq_ok_iff (hop : op ≠ .quotient) (hns : op.Steady ns) :
    (∃ v, op.fold ns = .ok v) ↔ Number.InRange (op.total ns) := by
  match ns, hns with
  | [], _ => exact iff_of_true ⟨_, rfl⟩ Number.zero.inRange_toInt
  | x :: rest, hns =>
    constructor
    · rintro ⟨v, hv⟩
      exact toInt_of_fold hv ▸ v.inRange_toInt
    · intro hrange
      exact exists_foldlM_step_eq_ok_of_steady hop hns.tail
        (fun _ ↦ hns.nonneg x List.mem_cons_self) hrange

/-- A row that is reordered is as steady as before. -/
theorem Reordered.steady (h : op.Reordered ns ms) (hns : op.Steady ns) : op.Steady ms :=
  ⟨fun n hn ↦ hns.nonneg n (h.perm.mem_iff.2 hn),
    fun hop hzero ↦ hns.no_zero_factor hop (h.perm.mem_iff.2 hzero)⟩

/-- Whether there is a value does not depend on the order. -/
theorem Reordered.exists_eq_ok_iff (h : op.Reordered ns ms) (hns : op.Steady ns) :
    (∃ v, op.fold ns = .ok v) ↔ ∃ v, op.fold ms = .ok v := by
  by_cases hop : op = .quotient
  · subst hop
    rw [exists_fold_quotient_eq_ok_iff hns.nonneg,
      exists_fold_quotient_eq_ok_iff (h.steady hns).nonneg, h.2.mem_iff]
  · rw [exists_fold_eq_ok_iff hop hns, exists_fold_eq_ok_iff hop (h.steady hns), h.total_eq]

/-! ### Folding up to a bound -/

/-- Whether two outcomes are of one kind: the same value, or a fault of the one kind that an
operation has without negative numbers. The dividends of two divisions by zero may differ. -/
inductive Alike (op : Operation) :
    Except Fault Evaluation → Except Fault Evaluation → Prop
  /-- Both have a value, and it is the same. -/
  | value {e e' : Evaluation} (value_eq : e.value = e'.value) : Alike op (.ok e) (.ok e')
  /-- Both overflow. -/
  | overflow (hop : op ≠ .quotient) :
      Alike op (.error (.overflow op)) (.error (.overflow op))
  /-- Both divide by zero. -/
  | divisionByZero (hop : op = .quotient) (d d' : Number) :
      Alike op (.error (.divisionByZero d)) (.error (.divisionByZero d'))

theorem filter_le_eq_self (hns : ∀ n ∈ ns, n ≤ bound) :
    (ns.filter fun n ↦ decide (n ≤ bound)) = ns :=
  List.filter_eq_self.2 fun n hn ↦ decide_eq_true (hns n hn)

/-- Where all numbers stay within the bound, all of them are folded. -/
theorem foldUpTo_of_forall_le (hns : ∀ n ∈ ns, n ≤ bound) :
    op.foldUpTo bound ns = (op.fold ns).map fun value ↦ ⟨value, ns, op⟩ := by
  rw [foldUpTo, filter_le_eq_self hns]

theorem fold_eq_ok_of_foldUpTo {e : Evaluation} (hns : ∀ n ∈ ns, n ≤ bound)
    (h : op.foldUpTo bound ns = .ok e) : op.fold ns = .ok e.value := by
  obtain ⟨-, hoperands, hfold⟩ := foldUpTo_eq_ok_iff.1 h
  rwa [hoperands, filter_le_eq_self hns] at hfold

/-- The order of the numbers does not show in the value. -/
theorem Reordered.value_eq (h : op.Reordered ns ms) {v v' : Number} (hv : op.fold ns = .ok v)
    (hv' : op.fold ms = .ok v') : v = v' :=
  Number.ext (by rw [toInt_of_fold hv, toInt_of_fold hv', h.total_eq])

/-- Two faults that one operation has without negative numbers are of one kind. -/
theorem alike_of_fold_eq_error {f' : Fault} (hns : ∀ n ∈ ns, Number.zero ≤ n)
    (hms : ∀ n ∈ ms, Number.zero ≤ n) (hf : op.fold ns = .error f)
    (hf' : op.fold ms = .error f') : op.Alike (.error f) (.error f') := by
  obtain ⟨hop, rfl⟩ | ⟨hop, d, rfl⟩ := fault_of_fold_eq_error hns hf
  · obtain ⟨-, rfl⟩ | ⟨hop', -⟩ := fault_of_fold_eq_error hms hf'
    · exact .overflow hop
    · exact absurd hop' hop
  · obtain ⟨hop', -⟩ | ⟨-, d', rfl⟩ := fault_of_fold_eq_error hms hf'
    · exact absurd hop hop'
    · exact .divisionByZero hop d d'

end

/-- **The order of the numbers does not show in the value**, and without negative numbers it does
not show in whether there is one either. Of a difference or quotient the first number keeps its
place. Two orders that have a value have the same one. If no number is negative, and no factor is
zero, the outcomes of two orders are of one kind: a sum, product or difference overflows in both or
in neither, and a quotient divides by zero in both or in neither. -/
theorem foldUpTo_reordered {op : Operation} {bound : Number} {ns ms : List Number}
    (h : op.Reordered ns ms) (hns : ∀ n ∈ ns, n ≤ bound) (hms : ∀ n ∈ ms, n ≤ bound) :
    (∀ e e', op.foldUpTo bound ns = .ok e → op.foldUpTo bound ms = .ok e' →
        e.value = e'.value) ∧
      ((∀ n ∈ ns, Number.zero ≤ n) → (op = .product → Number.zero ∉ ns) →
        op.Alike (op.foldUpTo bound ns) (op.foldUpTo bound ms)) := by
  constructor
  · intro e e' he he'
    exact h.value_eq (fold_eq_ok_of_foldUpTo hns he) (fold_eq_ok_of_foldUpTo hms he')
  · intro hnonneg hfactor
    have hsteady : op.Steady ns := ⟨hnonneg, hfactor⟩
    have hsame := h.exists_eq_ok_iff hsteady
    rw [foldUpTo_of_forall_le hns, foldUpTo_of_forall_le hms]
    rcases hfold : op.fold ns with f | v <;> rcases hfold' : op.fold ms with f' | v'
    · exact alike_of_fold_eq_error hnonneg (h.steady hsteady).nonneg hfold hfold'
    · obtain ⟨v, hv⟩ := hsame.2 ⟨v', hfold'⟩
      exact absurd (hfold.symm.trans hv) nofun
    · obtain ⟨v', hv'⟩ := hsame.1 ⟨v, hfold⟩
      exact absurd (hfold'.symm.trans hv') nofun
    · exact .value (h.value_eq hfold hfold')

/-- A difference of negative numbers, and a quotient that divides by zero after one division or at
once, so that the dividends differ. -/
theorem foldUpTo_reordered_quotient :
    (∀ e e', difference.foldUpTo .thousand (["5", "-3", "2"].map Number.ofToken) = .ok e →
        difference.foldUpTo .thousand (["5", "2", "-3"].map Number.ofToken) = .ok e' →
          e.value = e'.value) ∧
      quotient.Alike (quotient.foldUpTo .thousand (["40", "2", "0", "5"].map Number.ofToken))
        (quotient.foldUpTo .thousand (["40", "0", "5", "2"].map Number.ofToken)) ∧
      quotient.foldUpTo .thousand (["40", "2", "0", "5"].map Number.ofToken) =
        .error (.divisionByZero (Number.ofToken "20")) ∧
      quotient.foldUpTo .thousand (["40", "0", "5", "2"].map Number.ofToken) =
        .error (.divisionByZero (Number.ofToken "40")) := by
  have hdifference : difference.Reordered (["5", "-3", "2"].map Number.ofToken)
      (["5", "2", "-3"].map Number.ofToken) :=
    ⟨rfl, by decide +kernel⟩
  have hquotient : quotient.Reordered (["40", "2", "0", "5"].map Number.ofToken)
      (["40", "0", "5", "2"].map Number.ofToken) :=
    ⟨rfl, by decide +kernel⟩
  have hvalue := (@foldUpTo_reordered difference .thousand _ _ hdifference (by decide +kernel)
    (by decide +kernel)).1
  have halike := (@foldUpTo_reordered quotient .thousand _ _ hquotient (by decide +kernel)
    (by decide +kernel)).2 (by decide +kernel) nofun
  exact ⟨hvalue, halike, rfl, rfl⟩

/-- A zero among factors brings back a product only if it comes in time. -/
example :
    product.fold (["4294967296", "4294967296", "0"].map Number.ofToken) =
        .error (.overflow .product) ∧
      product.fold (["0", "4294967296", "4294967296"].map Number.ofToken) = .ok .zero :=
  ⟨rfl, rfl⟩

end Operation

end StringCalculator
