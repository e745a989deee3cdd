import StringCalculator.Calculation
import StringCalculator.Proofs.Folding
import StringCalculator.Proofs.Header

/-!
# Stages of a calculation

A calculation asks two questions before it cuts anything: whether the text is blank, and whether it
has a header. The equations here answer both, so that what is left is a statement about pieces and
numbers: `calculate_attach` for a text with a header, which is never blank, and
`calculate_of_not_isHeaded` for a text without one.

The numbers know nothing of delimiters (`calculateNumbers_withDelimiters`), so two calculations that
come to the same numbers have the same outcome.

`Attains` says what a result has to do with the configuration it comes from, without the text and
the numbers that were left out on the way.
-/

namespace StringCalculator

namespace Configuration

/-- The configuration with other delimiters. -/
def withDelimiters (c : Configuration) (ds : List String) : Configuration :=
  { c with delimiters := ds }

/-- The configuration with what a header declares among its delimiters. -/
def withDeclared (c : Configuration) (spec : String) : Configuration :=
  c.withDelimiters (c.delimiters ++ Header.declared spec)

/-! ### From the text to the numbers -/

/-- A blank text is worth zero, and no operand comes out of it. -/
theorem calculate_of_isBlankText (c : Configuration) {text : String}
    (h : isBlankText text = true) : c.calculate text = .ok (.empty c.operation) := by
  rw [calculate, if_pos h]

/-- What any other text is worth depends on its numbers alone. -/
theorem calculate_of_not_isBlankText (c : Configuration) {text : String}
    (h : ¬isBlankText text = true) : c.calculate text = c.calculateNumbers (c.numbers text) := by
  rw [calculate, if_neg h]

/-- A text with a header is never blank, since the header is not. -/
theorem not_isBlankText_attach (spec payload : String) :
    ¬isBlankText (Header.attach spec payload) = true := by
  rw [isBlankText, Header.toList_attach, List.all_cons, Bool.and_eq_true]
  exact fun h ↦ absurd h.1 (by decide)

/-- With a header, its payload is cut at the configured delimiters and the declared ones. -/
theorem calculate_attach (c : Configuration) {spec : String} (hspec : '\n' ∉ spec.toList)
    (payload : String) :
    c.calculate (Header.attach spec payload) =
      c.calculateNumbers ((Delimiter.pieces (c.delimiters ++ Header.declared spec) payload).map
        Number.ofToken) := by
  rw [c.calculate_of_not_isBlankText (not_isBlankText_attach spec payload), numbers,
    Header.detach_attach hspec]
  rfl

/-- Without a header, the whole text is cut at the configured delimiters. -/
theorem calculate_of_not_isHeaded (c : Configuration) {text : String}
    (hblank : ¬isBlankText text = true) (h : ¬Header.IsHeaded text) :
    c.calculate text =
      c.calculateNumbers ((Delimiter.pieces c.delimiters text).map Number.ofToken) := by
  rw [c.calculate_of_not_isBlankText hblank, numbers, Header.detach_of_not_isHeaded h]
  show c.calculateNumbers ((Delimiter.pieces (c.delimiters ++ []) text).map Number.ofToken) = _
  rw [List.append_nil]

/-! ### From the numbers to the outcome -/

/-- Once the numbers are known, delimiters do not matter. -/
theorem calculateNumbers_withDelimiters (c : Configuration) (ds : List String)
    (ns : List Number) : (c.withDelimiters ds).calculateNumbers ns = c.calculateNumbers ns :=
  rfl

/-- What a list of numbers gives, if it gives a result. -/
theorem calculateNumbers_eq_ok_iff {c : Configuration} {ns : List Number} {e : Evaluation} :
    c.calculateNumbers ns = .ok e ↔
      (c.denyNegatives = true → ∀ n ∈ ns, ¬n.isNegative = true) ∧
        c.operation.foldUpTo c.upperBound ns = .ok e := by
  rw [← refuseNegatives_eq_ok_iff, calculateNumbers]
  rcases refuseNegatives c.denyNegatives ns with f | u
  · exact ⟨nofun, fun h ↦ nomatch h.1⟩
  · exact ⟨fun h ↦ ⟨rfl, h⟩, fun h ↦ h.2⟩

/-- Numbers are folded if none of them is refused. -/
theorem calculateNumbers_eq_bind (c : Configuration) (ns : List Number) :
    c.calculateNumbers ns =
      (refuseNegatives c.denyNegatives ns).bind fun _ ↦ c.operation.foldUpTo c.upperBound ns := by
  rw [calculateNumbers]
  rcases refuseNegatives c.denyNegatives ns with f | u <;> rfl

/-- The outcome of a list of zeros. -/
theorem value_of_forall_eq_zero (c : Configuration) {ns : List Number}
    (h : ∀ n ∈ ns, n = Number.zero) :
    (c.calculateNumbers ns).map Evaluation.value =
      if c.operation = .quotient ∧ Number.zero ≤ c.upperBound ∧ 1 < ns.length then
        .error (.divisionByZero Number.zero)
      else .ok Number.zero := by
  have hok : refuseNegatives c.denyNegatives ns = .ok () :=
    refuseNegatives_eq_ok_iff.2 fun _ n hn ↦ h n hn ▸ Number.not_isNegative_zero
  have hfold : (c.calculateNumbers ns).map Evaluation.value =
      c.operation.fold (ns.filter fun n ↦ decide (n ≤ c.upperBound)) := by
    rw [calculateNumbers, hok]
    show ((c.operation.fold _).map _).map _ = _
    rcases c.operation.fold (ns.filter fun n ↦ decide (n ≤ c.upperBound)) with f | v <;> rfl
  rw [hfold, Operation.fold_of_forall_eq_zero fun n hn ↦ h n (List.mem_filter.1 hn).1]
  by_cases hbound : Number.zero ≤ c.upperBound
  · have hall : (ns.filter fun n ↦ decide (n ≤ c.upperBound)) = ns :=
      List.filter_eq_self.2 fun n hn ↦ by simpa [h n hn] using hbound
    simp [hall, hbound]
  · have hnone : (ns.filter fun n ↦ decide (n ≤ c.upperBound)) = [] :=
      List.filter_eq_nil_iff.2 fun n hn ↦ by simpa [h n hn] using hbound
    simp [hnone, hbound]

theorem value_eq_of_calculate_eq {c c' : Configuration} {text text' : String}
    (h : c.calculate text = c'.calculate text') : c.value text = c'.value text' := by
  rw [value, value, h]

/-! ### Results -/

/-- Whether an evaluation is what a configuration makes of its operands. -/
structure Attains (c : Configuration) (e : Evaluation) : Prop where
  /-- The operation is the configured one. -/
  operation : e.operation = c.operation
  /-- No operand exceeds the bound. -/
  bounded : ∀ n ∈ e.operands, n ≤ c.upperBound
  /-- No operand is refused. -/
  allowed : c.denyNegatives = true → ∀ n ∈ e.operands, ¬n.isNegative = true
  /-- The operands fold to the value. -/
  folded : c.operation.fold e.operands = .ok e.value

theorem attains_empty (c : Configuration) : c.Attains (.empty c.operation) :=
  ⟨rfl, fun _ hn ↦ absurd hn List.not_mem_nil, fun _ _ hn ↦ absurd hn List.not_mem_nil, rfl⟩

/-- What numbers come to is an evaluation that the configuration attains. -/
theorem attains_of_calculateNumbers_eq_ok {c : Configuration} {ns : List Number} {e : Evaluation}
    (h : c.calculateNumbers ns = .ok e) : c.Attains e := by
  obtain ⟨hallowed, hfold⟩ := calculateNumbers_eq_ok_iff.1 h
  obtain ⟨hop, hoperands, hvalue⟩ := Operation.foldUpTo_eq_ok_iff.1 hfold
  have hmem : ∀ n ∈ e.operands, n ∈ ns ∧ n ≤ c.upperBound := by
    intro n hn
    simpa [hoperands] using hn
  exact ⟨hop, fun n hn ↦ (hmem n hn).2, fun hdeny n hn ↦ hallowed hdeny n (hmem n hn).1, hvalue⟩

/-- Whatever a configuration gives for a text, it attains. -/
theorem attains_of_calculate_eq_ok {c : Configuration} {text : String} {e : Evaluation}
    (h : c.calculate text = .ok e) : c.Attains e := by
  by_cases hblank : isBlankText text = true
  · rw [c.calculate_of_isBlankText hblank] at h
    cases h
    exact c.attains_empty
  · rw [c.calculate_of_not_isBlankText hblank] at h
    exact attains_of_calculateNumbers_eq_ok h

end Configuration

end StringCalculator
