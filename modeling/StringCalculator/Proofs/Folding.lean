import StringCalculator.Evaluation

/-!
# Folding

What refusing and folding a list of numbers gives. `foldUpTo_eq_ok_iff` and
`foldUpTo_eq_error_iff` say it of a fold up to a bound, for any list.

Whatever is said about a fold is said about one step first. `Steps` lists the outcomes a step can
have, each with the reason for it, and `steps` finds every step among them; `step_eq_ok_iff` and its
companions for the two faults say when each outcome is had. Nothing else looks inside a step. A run
then keeps what each of its steps keeps (`foldlM_step_induction`), and where it fails one of its
steps has failed (`exists_step_of_foldlM_eq_error`).

Lists of zeros are looked at on their own, since they are what blank text comes to: they fold to
zero, except that a second zero is a divisor of a quotient (`fold_of_forall_eq_zero`).
-/

namespace StringCalculator

theorem Number.not_isNegative_zero : ¬Number.zero.isNegative = true := by
  decide

/-! ### Refusing -/

/-- Numbers pass if negative ones are allowed or there is none. -/
theorem refuseNegatives_eq_ok_iff {deny : Bool} {ns : List Number} :
    refuseNegatives deny ns = .ok () ↔ deny = true → ∀ n ∈ ns, ¬n.isNegative = true := by
  cases deny <;> simp [refuseNegatives]

/-- Refusing reports all the negative numbers of a list, and only where there are some. -/
theorem refuseNegatives_eq_error_iff {deny : Bool} {ns : List Number} {f : Fault} :
    refuseNegatives deny ns = .error f ↔
      deny = true ∧ ns.filter Number.isNegative ≠ [] ∧
        f = .negatives (ns.filter Number.isNegative) := by
  rw [refuseNegatives]
  split
  · next h =>
    rw [Bool.and_eq_true, Bool.not_eq_true', List.isEmpty_eq_false_iff] at h
    rw [Except.error.injEq]
    exact ⟨fun hf ↦ ⟨h.1, h.2, hf.symm⟩, fun hf ↦ hf.2.2.symm⟩
  · next h =>
    rw [Bool.and_eq_true, Bool.not_eq_true', List.isEmpty_eq_false_iff] at h
    exact ⟨nofun, fun hf ↦ absurd ⟨hf.1, hf.2.1⟩ h⟩

/-- A single negative number is enough for all of them to be refused and reported. -/
theorem refuseNegatives_of_mem {ns : List Number} {n : Number} (hn : n ∈ ns)
    (hneg : n.isNegative = true) :
    refuseNegatives true ns = .error (.negatives (ns.filter Number.isNegative)) := by
  have hne : ns.filter Number.isNegative ≠ [] :=
    List.ne_nil_of_mem (List.mem_filter.2 ⟨hn, hneg⟩)
  exact refuseNegatives_eq_error_iff.2 ⟨rfl, hne, rfl⟩

namespace Operation

/-! ### Steps -/

/-- The outcomes that a step from `acc` by `n` can have, and what each of them takes. -/
inductive Steps (op : Operation) (acc n : Number) : Except Fault Number → Prop
  /-- There is no step of a quotient by zero. -/
  | divisor (hop : op = .quotient) (hn : n = .zero) : Steps op acc n (.error (.divisionByZero acc))
  /-- A result is exact. -/
  | result {r : Number} (hdivisor : ¬(op = .quotient ∧ n = .zero))
      (hr : r.toInt = op.exact acc.toInt n.toInt) : Steps op acc n (.ok r)
  /-- The exact result is out of range. -/
  | overflow (hdivisor : ¬(op = .quotient ∧ n = .zero))
      (hnone : Number.ofInt? (op.exact acc.toInt n.toInt) = none) :
      Steps op acc n (.error (.overflow op))

/-- Every step has one of these outcomes. -/
theorem steps (op : Operation) (acc n : Number) : Steps op acc n (op.step acc n) := by
  by_cases hdivisor : op = .quotient ∧ n = .zero
  · rw [step, if_pos hdivisor]
    exact .divisor hdivisor.1 hdivisor.2
  · rw [step, if_neg hdivisor]
    rcases hr : Number.ofInt? (op.exact acc.toInt n.toInt) with - | r
    · exact .overflow hdivisor hr
    · exact .result hdivisor (Number.ofInt?_eq_some_iff.1 hr)

section

variable {op : Operation} {acc n : Number}

/-- A step gives a number if and only if it is no quotient by zero and the number is its exact
result. -/
theorem step_eq_ok_iff {r : Number} :
    op.step acc n = .ok r ↔
      ¬(op = .quotient ∧ n = .zero) ∧ r.toInt = op.exact acc.toInt n.toInt := by
  constructor
  · intro h
    have hsteps := op.steps acc n
    rw [h] at hsteps
    cases hsteps with
    | result hdivisor hr => exact ⟨hdivisor, hr⟩
  · rintro ⟨hdivisor, hr⟩
    rw [step, if_neg hdivisor, ← hr, Number.ofInt?_toInt]

/-- A step divides by zero exactly if it is a quotient by zero, and it reports what it was to
divide. -/
theorem step_eq_divisionByZero_iff {dividend : Number} :
    op.step acc n = .error (.divisionByZero dividend) ↔
      op = .quotient ∧ n = .zero ∧ dividend = acc := by
  constructor
  · intro h
    have hsteps := op.steps acc n
    rw [h] at hsteps
    cases hsteps with
    | divisor hop hn => exact ⟨hop, hn, rfl⟩
  · rintro ⟨rfl, rfl, rfl⟩
    rfl

/-- A step that overflows has an exact result that is no number. -/
theorem step_eq_overflow_iff {op' : Operation} :
    op.step acc n = .error (.overflow op') ↔
      op' = op ∧ ¬(op = .quotient ∧ n = .zero) ∧
        Number.ofInt? (op.exact acc.toInt n.toInt) = none := by
  constructor
  · intro h
    have hsteps := op.steps acc n
    rw [h] at hsteps
    cases hsteps with
    | overflow hdivisor hnone => exact ⟨rfl, hdivisor, hnone⟩
  · rintro ⟨rfl, hdivisor, hnone⟩
    rw [step, if_neg hdivisor, hnone]

/-- The result of a step is exact. -/
theorem toInt_of_step {r : Number} (h : op.step acc n = .ok r) :
    r.toInt = op.exact acc.toInt n.toInt :=
  (step_eq_ok_iff.1 h).2

end

/-- Steps do not refuse numbers. -/
theorem step_ne_negatives (op : Operation) (acc n : Number) (ns : List Number) :
    op.step acc n ≠ .error (.negatives ns) := by
  intro h
  have hsteps := op.steps acc n
  rw [h] at hsteps
  cases hsteps

/-! ### Runs of steps -/

theorem foldlM_step_cons_eq_ok_iff {op : Operation} {acc n v : Number} {ns : List Number} :
    (n :: ns).foldlM op.step acc = .ok v ↔
      ∃ r, op.step acc n = .ok r ∧ ns.foldlM op.step r = .ok v := by
  rw [List.foldlM_cons]
  rcases op.step acc n with f | r
  · exact ⟨nofun, fun ⟨_, h, _⟩ ↦ nomatch h⟩
  · exact ⟨fun h ↦ ⟨r, rfl, h⟩, fun ⟨_, h, hrun⟩ ↦ Except.ok.inj h ▸ hrun⟩

/-- A run fails at its first step or behind it. -/
theorem foldlM_step_cons_eq_error_iff {op : Operation} {acc n : Number} {ns : List Number}
    {f : Fault} :
    (n :: ns).foldlM op.step acc = .error f ↔
      op.step acc n = .error f ∨
        ∃ r, op.step acc n = .ok r ∧ ns.foldlM op.step r = .error f := by
  rw [List.foldlM_cons]
  rcases op.step acc n with g | r
  · exact ⟨fun h ↦ Or.inl h, fun h ↦ h.elim id fun ⟨_, h, _⟩ ↦ nomatch h⟩
  · refine ⟨fun h ↦ Or.inr ⟨r, rfl, h⟩, ?_⟩
    rintro (h | ⟨_, h, hrun⟩)
    · cases h
    · exact Except.ok.inj h ▸ hrun

section

variable {op : Operation} {P : Number → Prop} {ns : List Number}

/-- What every step keeps, a run keeps. -/
theorem foldlM_step_induction {acc v : Number}
    (hstep : ∀ a n r, n ∈ ns → P a → op.step a n = .ok r → P r) (hacc : P acc)
    (h : ns.foldlM op.step acc = .ok v) : P v := by
  induction ns generalizing acc with
  | nil =>
    cases h
    exact hacc
  | cons n ns ih =>
    obtain ⟨r, hr, hrun⟩ := foldlM_step_cons_eq_ok_iff.1 h
    have hPr : P r := hstep acc n r List.mem_cons_self hacc hr
    exact ih (fun a m s hm ↦ hstep a m s (List.mem_cons_of_mem _ hm)) hPr hrun

/-- A run fails where one of its steps fails, and up to there it has kept what steps keep. -/
theorem exists_step_of_foldlM_eq_error {acc : Number} {f : Fault}
    (hstep : ∀ a n r, n ∈ ns → P a → op.step a n = .ok r → P r) (hacc : P acc)
    (h : ns.foldlM op.step acc = .error f) : ∃ a, ∃ n ∈ ns, P a ∧ op.step a n = .error f := by
  induction ns generalizing acc with
  | nil => cases h
  | cons n ns ih =>
    rcases foldlM_step_cons_eq_error_iff.1 h with hfail | ⟨r, hr, hrun⟩
    · exact ⟨acc, n, List.mem_cons_self, hacc, hfail⟩
    · have hPr : P r := hstep acc n r List.mem_cons_self hacc hr
      obtain ⟨a, m, hm, ha, hfail⟩ :=
        ih (fun a m s hm ↦ hstep a m s (List.mem_cons_of_mem _ hm)) hPr hrun
      exact ⟨a, m, List.mem_cons_of_mem _ hm, ha, hfail⟩

end

/-- Folding does not refuse numbers. -/
theorem fold_ne_negatives (op : Operation) (ns ms : List Number) :
    op.fold ns ≠ .error (.negatives ms) := by
  intro h
  cases ns with
  | nil => cases h
  | cons n ns =>
    obtain ⟨a, m, -, -, hfail⟩ :=
      exists_step_of_foldlM_eq_error (P := fun _ ↦ True) (fun _ _ _ _ _ _ ↦ trivial) trivial h
    exact op.step_ne_negatives a m ms hfail

/-! ### Folding up to a bound -/

/-- What a fold up to a bound gives: its operands are the numbers that do not exceed the bound, and
its value is what they fold to. -/
theorem foldUpTo_eq_ok_iff {op : Operation} {bound : Number} {ns : List Number} {e : Evaluation} :
    op.foldUpTo bound ns = .ok e ↔
      e.operation = op ∧ e.operands = (ns.filter fun n ↦ decide (n ≤ bound)) ∧
        op.fold e.operands = .ok e.value := by
  obtain ⟨value, operands, operation⟩ := e
  rw [foldUpTo]
  constructor
  · intro h
    rcases hf : op.fold (ns.filter fun n ↦ decide (n ≤ bound)) with f | v
    · rw [hf] at h
      cases h
    · rw [hf] at h
      cases h
      exact ⟨rfl, rfl, hf⟩
  · rintro ⟨rfl, rfl, h⟩
    rw [h]
    rfl

/-- A fold up to a bound fails as the fold of the numbers that do not exceed the bound does. -/
theorem foldUpTo_eq_error_iff {op : Operation} {bound : Number} {ns : List Number} {f : Fault} :
    op.foldUpTo bound ns = .error f ↔
      op.fold (ns.filter fun n ↦ decide (n ≤ bound)) = .error f := by
  rw [foldUpTo]
  rcases op.fold (ns.filter fun n ↦ decide (n ≤ bound)) with g | v
  · refine ⟨fun h ↦ ?_, fun h ↦ ?_⟩
    · cases h
      rfl
    · cases h
      rfl
  · exact ⟨nofun, nofun⟩

/-! ### Lists of zeros -/

theorem step_zero {op : Operation} (h : op ≠ .quotient) :
    op.step Number.zero Number.zero = .ok Number.zero := by
  cases op with
  | quotient => exact absurd rfl h
  | _ => rfl

/-- Zeros fold to zero, unless a quotient meets the second of them as a divisor. -/
theorem fold_of_forall_eq_zero {op : Operation} {ns : List Number}
    (h : ∀ n ∈ ns, n = Number.zero) :
    op.fold ns =
      if op = .quotient ∧ 1 < ns.length then .error (.divisionByZero Number.zero)
      else .ok Number.zero := by
  cases ns with
  | nil => simp [fold]
  | cons n ns =>
    obtain rfl := h n List.mem_cons_self
    by_cases hop : op = .quotient
    · subst hop
      cases ns with
      | nil => rfl
      | cons m ms =>
        obtain rfl := h m (by simp)
        rw [if_pos ⟨rfl, by simp⟩]
        rfl
    · rw [if_neg fun h ↦ hop h.1]
      -- one step leads from zero to zero, so a run of steps does
      have hrun : ∀ ms : List Number, (∀ m ∈ ms, m = Number.zero) →
          ms.foldlM op.step Number.zero = .ok Number.zero := by
        intro ms hms
        induction ms with
        | nil => rfl
        | cons m ms ih =>
          rw [List.foldlM_cons, hms m List.mem_cons_self, step_zero hop]
          exact ih fun k hk ↦ hms k (List.mem_cons_of_mem _ hk)
      exact hrun ns fun k hk ↦ h k (List.mem_cons_of_mem _ hk)

end Operation

end StringCalculator
