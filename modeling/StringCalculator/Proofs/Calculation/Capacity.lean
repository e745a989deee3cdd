import Mathlib.Algebra.BigOperators.Group.List.Basic
import Mathlib.Algebra.Order.GroupWithZero.Basic
import Mathlib.Algebra.Order.Ring.Int
import StringCalculator.Proofs.Calculation.Basic
import StringCalculator.Proofs.Folding.Nonnegative
import StringCalculator.Proofs.Folding.Progress

/-!
# How many operands are safe

Where negative numbers are denied, the operands of a calculation lie between zero and the bound, so
their number alone tells whether a fold can overflow. `Fits` gives the condition for each operation,
and `extreme` the operands that go furthest: nothing but the bound, behind a zero if it is taken
away.

That a number of operands is safe is an invariant of the run. What is left after some steps is
measured against the bound taken as often as there are numbers to come, and no step can take more of
it away than the bound once (`exists_foldlM_sum_eq_ok` and its companions). That the condition is
tight takes no run at all: the closed form of the extreme operands is out of range exactly where the
condition fails.
-/

namespace StringCalculator

namespace Number

variable {bound n : Number} {ns : List Number}

/-- Whether all numbers of a list lie between zero and a bound. -/
def AllWithin (bound : Number) (ns : List Number) : Prop :=
  ∀ n ∈ ns, zero ≤ n ∧ n ≤ bound

theorem AllWithin.head (h : AllWithin bound (n :: ns)) : 0 ≤ n.toInt ∧ n.toInt ≤ bound.toInt :=
  h n List.mem_cons_self

theorem AllWithin.tail (h : AllWithin bound (n :: ns)) : AllWithin bound ns :=
  fun m hm ↦ h m (List.mem_cons_of_mem n hm)

theorem allWithin_replicate (hbound : zero ≤ bound) (count : Nat) :
    AllWithin bound (List.replicate count bound) := by
  intro n hn
  rw [List.eq_of_mem_replicate hn]
  exact ⟨hbound, Int.le_refl _⟩

end Number

namespace Operation

open Number (AllWithin)

section

variable {acc bound : Number} {ns : List Number}

/-! ### Runs with room for the bound at every step -/

/-- One number more takes one bound more of the room. -/
theorem length_cons_mul (n : Number) (ns : List Number) (b : Int) :
    ((n :: ns).length : Int) * b = ns.length * b + b := by
  rw [List.length_cons, Int.natCast_succ, Int.add_mul, Int.one_mul]

/-- A running sum stays in range if there is room for the bound at every step. -/
theorem exists_foldlM_sum_eq_ok (hns : AllWithin bound ns) (hacc : Number.zero ≤ acc)
    (hroom : acc.toInt + ns.length * bound.toInt ≤ 9223372036854775807) :
    ∃ v, ns.foldlM sum.step acc = .ok v := by
  refine exists_foldlM_step_eq_ok (P := fun a ms ↦ AllWithin bound ms ∧ 0 ≤ a ∧
    a + ms.length * bound.toInt ≤ 9223372036854775807) (fun a n ms h ↦ ?_) ⟨hns, hacc, hroom⟩
  obtain ⟨hms, ha, hroom⟩ := h
  obtain ⟨hn, hle⟩ := hms.head
  have hrest : 0 ≤ (ms.length : Int) * bound.toInt :=
    Int.mul_nonneg (Int.natCast_nonneg _) (hn.trans hle)
  rw [length_cons_mul] at hroom
  refine ⟨nofun, ?_, hms.tail, ?_, ?_⟩
  · show -9223372036854775808 ≤ a + n.toInt ∧ a + n.toInt ≤ 9223372036854775807
    omega
  · show 0 ≤ a + n.toInt
    omega
  · show a + n.toInt + ms.length * bound.toInt ≤ 9223372036854775807
    omega

/-- So does a running difference, with the room below it. -/
theorem exists_foldlM_difference_eq_ok (hns : AllWithin bound ns)
    (hroom : -9223372036854775808 ≤ acc.toInt - ns.length * bound.toInt) :
    ∃ v, ns.foldlM difference.step acc = .ok v := by
  refine exists_foldlM_step_eq_ok (P := fun a ms ↦ AllWithin bound ms ∧
    a ≤ 9223372036854775807 ∧ -9223372036854775808 ≤ a - ms.length * bound.toInt)
    (fun a n ms h ↦ ?_) ⟨hns, acc.upper, hroom⟩
  obtain ⟨hms, ha, hroom⟩ := h
  obtain ⟨hn, hle⟩ := hms.head
  have hrest : 0 ≤ (ms.length : Int) * bound.toInt :=
    Int.mul_nonneg (Int.natCast_nonneg _) (hn.trans hle)
  rw [length_cons_mul] at hroom
  refine ⟨nofun, ?_, hms.tail, ?_, ?_⟩
  · show -9223372036854775808 ≤ a - n.toInt ∧ a - n.toInt ≤ 9223372036854775807
    omega
  · show a - n.toInt ≤ 9223372036854775807
    omega
  · show -9223372036854775808 ≤ a - n.toInt - ms.length * bound.toInt
    omega

/-- A factor may be zero, but what the later factors could make of the result never grows. -/
theorem exists_foldlM_product_eq_ok (hbound : 1 ≤ bound.toInt) (hns : AllWithin bound ns)
    (hacc : Number.zero ≤ acc)
    (hroom : acc.toInt * bound.toInt ^ ns.length ≤ 9223372036854775807) :
    ∃ v, ns.foldlM product.step acc = .ok v := by
  refine exists_foldlM_step_eq_ok (P := fun a ms ↦ AllWithin bound ms ∧ 0 ≤ a ∧
    a * bound.toInt ^ ms.length ≤ 9223372036854775807) (fun a n ms h ↦ ?_) ⟨hns, hacc, hroom⟩
  obtain ⟨hms, ha, hroom⟩ := h
  obtain ⟨hn, hle⟩ := hms.head
  have hone : 1 ≤ bound.toInt ^ ms.length := one_le_pow₀ hbound
  have hzero : 0 ≤ a * n.toInt := Int.mul_nonneg ha hn
  have hnext : a * n.toInt * bound.toInt ^ ms.length ≤ 9223372036854775807 :=
    calc a * n.toInt * bound.toInt ^ ms.length
        ≤ a * bound.toInt * bound.toInt ^ ms.length :=
          Int.mul_le_mul_of_nonneg_right (Int.mul_le_mul_of_nonneg_left hle ha) (by omega)
      _ = a * bound.toInt ^ (n :: ms).length := by
          rw [List.length_cons, pow_succ', Int.mul_assoc]
      _ ≤ 9223372036854775807 := hroom
  have hself : a * n.toInt ≤ a * n.toInt * bound.toInt ^ ms.length :=
    le_mul_of_one_le_right hzero hone
  refine ⟨nofun, ?_, hms.tail, hzero, hnext⟩
  show -9223372036854775808 ≤ a * n.toInt ∧ a * n.toInt ≤ 9223372036854775807
  omega

end

/-! ### The number of operands -/

/-- Whether an operation takes so many operands, up to a bound, without leaving the range. -/
def Fits (op : Operation) (bound : Number) (count : Nat) : Prop :=
  match op with
  | sum => count * bound.toInt ≤ 9223372036854775807
  | product => bound.toInt ^ count ≤ 9223372036854775807
  | difference => ((count - 1 : Nat) : Int) * bound.toInt ≤ 9223372036854775808
  | quotient => True

instance (op : Operation) (bound : Number) (count : Nat) : Decidable (op.Fits bound count) :=
  match op with
  | sum => inferInstanceAs (Decidable (_ ≤ _))
  | product => inferInstanceAs (Decidable (_ ≤ _))
  | difference => inferInstanceAs (Decidable (_ ≤ _))
  | quotient => inferInstanceAs (Decidable True)

/-- The operands up to a bound, so many of them, that lead an operation furthest away. -/
def extreme (op : Operation) (bound : Number) (count : Nat) : List Number :=
  match op with
  | difference => .zero :: List.replicate (count - 1) bound
  | _ => List.replicate count bound

variable {op : Operation} {bound : Number} {ns : List Number} {count : Nat}

theorem length_extreme (op : Operation) (bound : Number) (hcount : 1 ≤ count) :
    (op.extreme bound count).length = count := by
  cases op with
  | difference =>
    show (List.replicate (count - 1) bound).length + 1 = count
    rw [List.length_replicate]
    omega
  | _ => exact List.length_replicate

theorem allWithin_extreme (op : Operation) (hbound : Number.zero ≤ bound) (count : Nat) :
    AllWithin bound (op.extreme bound count) := by
  cases op with
  | difference =>
    intro n hn
    rcases List.mem_cons.1 hn with rfl | hn
    · exact ⟨Int.le_refl _, hbound⟩
    · exact Number.allWithin_replicate hbound _ n hn
  | _ => exact Number.allWithin_replicate hbound count

/-- Operands between zero and the bound have a value where there are few enough of them. -/
theorem exists_fold_eq_ok_of_fits (hop : op ≠ .quotient) (hbound : 1 ≤ bound.toInt)
    (hns : AllWithin bound ns) (hfits : op.Fits bound ns.length) : ∃ v, op.fold ns = .ok v := by
  match ns, hns, hfits with
  | [], _, _ => exact ⟨_, rfl⟩
  | x :: rest, hns, hfits =>
    obtain ⟨hx, hle⟩ := hns.head
    cases op with
    | sum =>
      have hfits : ((x :: rest).length : Int) * bound.toInt ≤ 9223372036854775807 := hfits
      rw [length_cons_mul] at hfits
      exact exists_foldlM_sum_eq_ok hns.tail hx (by omega)
    | product =>
      have hpow : x.toInt * bound.toInt ^ rest.length ≤ 9223372036854775807 :=
        calc x.toInt * bound.toInt ^ rest.length
            ≤ bound.toInt * bound.toInt ^ rest.length :=
              Int.mul_le_mul_of_nonneg_right hle (Int.le_of_lt (Int.pow_pos (by omega)))
          _ = bound.toInt ^ (x :: rest).length := (pow_succ' _ _).symm
          _ ≤ 9223372036854775807 := hfits
      exact exists_foldlM_product_eq_ok hbound hns.tail hx hpow
    | difference =>
      have hfits : (rest.length : Int) * bound.toInt ≤ 9223372036854775808 := hfits
      exact exists_foldlM_difference_eq_ok hns.tail (by omega)
    | quotient => exact absurd rfl hop

/-- The extreme operands overflow where there are too many of them. -/
theorem fold_extreme_of_not_fits (hcount : 1 ≤ count) (hfits : ¬op.Fits bound count) :
    op.fold (op.extreme bound count) = .error (.overflow op) := by
  obtain ⟨k, rfl⟩ : ∃ k, count = k + 1 := ⟨count - 1, by omega⟩
  cases op with
  | sum =>
    refine foldlM_step_eq_overflow nofun fun hrange ↦ hfits ?_
    have hclosed : bound.toInt + ((List.replicate k bound).map Number.toInt).sum ≤
        9223372036854775807 := hrange.2
    rw [List.map_replicate, List.sum_replicate, nsmul_eq_mul] at hclosed
    show ((k + 1 : Nat) : Int) * bound.toInt ≤ 9223372036854775807
    rw [Int.natCast_succ, Int.add_mul, Int.one_mul]
    omega
  | product =>
    refine foldlM_step_eq_overflow nofun fun hrange ↦ hfits ?_
    have hclosed : bound.toInt * ((List.replicate k bound).map Number.toInt).prod ≤
        9223372036854775807 := hrange.2
    rwa [List.map_replicate, List.prod_replicate, ← pow_succ'] at hclosed
  | difference =>
    refine foldlM_step_eq_overflow nofun fun hrange ↦ hfits ?_
    have hclosed : -9223372036854775808 ≤
        0 - ((List.replicate k bound).map Number.toInt).sum := hrange.1
    rw [List.map_replicate, List.sum_replicate, nsmul_eq_mul] at hclosed
    show (k : Int) * bound.toInt ≤ 9223372036854775808
    omega
  | quotient => exact absurd trivial hfits

end Operation

namespace Configuration

/-- The numbers of a text that do not exceed the bound. -/
def kept (c : Configuration) (text : String) : List Number :=
  (c.numbers text).filter fun n ↦ decide (n ≤ c.upperBound)

/-- Only a fold overflows, and only one of numbers that were not refused. -/
theorem calculateNumbers_eq_overflow_iff {c : Configuration} {ns : List Number} {op : Operation} :
    c.calculateNumbers ns = .error (.overflow op) ↔
      (c.denyNegatives = true → ∀ n ∈ ns, ¬n.isNegative = true) ∧
        c.operation.fold (ns.filter fun n ↦ decide (n ≤ c.upperBound)) = .error (.overflow op) := by
  rw [← refuseNegatives_eq_ok_iff, ← Operation.foldUpTo_eq_error_iff, calculateNumbers]
  rcases hrefuse : refuseNegatives c.denyNegatives ns with f | u
  · constructor
    · intro h
      obtain rfl := Except.error.inj h
      rw [refuseNegatives] at hrefuse
      split at hrefuse
      · cases hrefuse
      · cases hrefuse
    · intro h
      cases h.1
  · exact ⟨fun h ↦ ⟨rfl, h⟩, fun h ↦ h.2⟩

/-- **How many operands are safe from overflow.** Where negative numbers are denied and the bound is
one or more, a text of which `count` numbers are folded does not overflow if `count` fits: for sums,
`count` times the bound is in range; for products, the bound to the power of `count` is; for
differences, `count - 1` times the bound is no further from zero than the least number; quotients do
not overflow at all. If `count` does not fit, there are `count` operands that do overflow: nothing
but the bound, or a zero and then the bound for a difference. -/
theorem calculate_overflow_threshold {c : Configuration} (hdeny : c.denyNegatives = true)
    (hbound : 1 ≤ c.upperBound.toInt) {count : Nat} (hcount : 1 ≤ count) :
    (c.operation.Fits c.upperBound count → ∀ text, (c.kept text).length = count →
        ∀ op, c.calculate text ≠ .error (.overflow op)) ∧
      (¬c.operation.Fits c.upperBound count →
        (((c.operation.extreme c.upperBound count).filter fun n ↦
            decide (n ≤ c.upperBound)).length = count ∧
          c.calculateNumbers (c.operation.extreme c.upperBound count) =
            .error (.overflow c.operation))) := by
  constructor
  · intro hfits text htext op h
    by_cases hblank : isBlankText text = true
    · rw [c.calculate_of_isBlankText hblank] at h
      cases h
    · rw [c.calculate_of_not_isBlankText hblank, calculateNumbers_eq_overflow_iff] at h
      obtain ⟨hallowed, hfold⟩ := h
      have hwithin : Number.AllWithin c.upperBound (c.kept text) := fun n hn ↦
        ⟨Number.not_isNegative_iff.1 (hallowed hdeny n (List.mem_filter.1 hn).1),
          of_decide_eq_true (List.mem_filter.1 hn).2⟩
      by_cases hop : c.operation = .quotient
      · rw [hop] at hfold
        exact Operation.fold_quotient_ne_overflow (fun n hn ↦ (hwithin n hn).1) op hfold
      · obtain ⟨v, hv⟩ := Operation.exists_fold_eq_ok_of_fits hop hbound hwithin (htext ▸ hfits)
        exact absurd (hv.symm.trans hfold) nofun
  · intro hfits
    have hzero : Number.zero ≤ c.upperBound := show (0 : Int) ≤ c.upperBound.toInt by omega
    have hwithin := Operation.allWithin_extreme c.operation hzero count
    have hkept : ((c.operation.extreme c.upperBound count).filter fun n ↦
        decide (n ≤ c.upperBound)) = c.operation.extreme c.upperBound count :=
      List.filter_eq_self.2 fun n hn ↦ decide_eq_true (hwithin n hn).2
    rw [calculateNumbers_eq_overflow_iff, hkept]
    exact ⟨Operation.length_extreme _ _ hcount,
      fun _ n hn ↦ Number.not_isNegative_iff.2 (hwithin n hn).1,
      Operation.fold_extreme_of_not_fits hcount hfits⟩

/-- Six factors up to a thousand cannot overflow, whatever stands above the bound, and seven can. -/
theorem calculate_overflow_threshold_product :
    (∀ op, ({ operation := .product } : Configuration).calculate
        "1000,1000,1000,5000,1000,1000,1000" ≠ .error (.overflow op)) ∧
      ({ operation := .product } : Configuration).calculateNumbers
        (List.replicate 7 Number.thousand) = .error (.overflow .product) := by
  have hthousand : (1 : Int) ≤ ({ operation := .product } : Configuration).upperBound.toInt := by
    decide
  have hsix := (@calculate_overflow_threshold { operation := .product } rfl hthousand 6
    (by decide)).1 (by decide)
  have hseven := (@calculate_overflow_threshold { operation := .product } rfl hthousand 7
    (by decide)).2 (by decide)
  exact ⟨hsix _ (by decide +kernel), hseven.2⟩

end Configuration

end StringCalculator
