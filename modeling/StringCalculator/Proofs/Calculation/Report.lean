import StringCalculator.Proofs.Calculation.Joined

/-!
# Reports of negative numbers

What is said about negative numbers that are refused, and what can be told from it. The message ends
with a list of them, and that list is a text like any other: cut at its commas, with negative
numbers denied, it is refused for the same numbers (`calculate_forReports_joined`). So nothing is
lost between the numbers and the message, and two messages are alike only if they are about the same
numbers (`message_negatives_read_back`).

A list is cut at the comma alone. The blank behind each comma stays with the number that follows and
is trimmed with it; the minus sign is no delimiter. That the numbers are negative is needed only for
the list to be refused, not for it to be read.
-/

namespace StringCalculator

theorem setsApart_comma : SetsApart "," " " := by
  have hcomma : ∀ c ∈ ",".toList.head?, c = ',' := by simp
  refine ⟨by decide, fun c hc ↦ ?_, fun c hc ↦ ?_, fun c hc n ↦ ?_⟩
  · obtain rfl : c = ' ' := by simpa using hc
    decide
  · obtain rfl := hcomma c hc
    decide
  · obtain rfl := hcomma c hc
    exact n.not_mem_toText (by decide) (by decide)

/-- The listed numbers stand in the message as they are written. -/
theorem pieces_joined_comma {ns : List Number} (hns : ns ≠ []) :
    Delimiter.pieces [", "] (joined ", " ns) = ns.map Number.toText := by
  refine Delimiter.pieces_singleton_intercalate (by decide) (by simpa using hns) fun t ht c hc ↦ ?_
  obtain ⟨n, -, rfl⟩ := List.mem_map.1 ht
  exact setsApart_comma.not_mem_toText c (by simpa using hc) n

theorem Fault.message_negatives (ns : List Number) :
    (negatives ns).message = "Negatives not allowed: " ++ joined ", " ns :=
  rfl

/-- The report tells which numbers it is about. -/
theorem Fault.negatives_inj_of_message_eq {ns ms : List Number}
    (h : (negatives ns).message = (negatives ms).message) : ns = ms := by
  rw [message_negatives, message_negatives, String.append_right_inj] at h
  exact joined_injective setsApart_comma h

namespace Configuration

/-! ### What is reported -/

/-- A list is refused for its negative numbers, and for all of them. -/
theorem calculateNumbers_eq_negatives_iff {c : Configuration} {ms ns : List Number} :
    c.calculateNumbers ms = .error (.negatives ns) ↔
      c.denyNegatives = true ∧ ns ≠ [] ∧ ns = ms.filter Number.isNegative := by
  rw [calculateNumbers_eq_bind]
  rcases hrefused : refuseNegatives c.denyNegatives ms with f | u
  · obtain ⟨hdeny, hne, rfl⟩ := refuseNegatives_eq_error_iff.1 hrefused
    show Except.error _ = Except.error _ ↔ _
    rw [Except.error.injEq, Fault.negatives.injEq]
    refine ⟨?_, fun h ↦ h.2.2.symm⟩
    rintro rfl
    exact ⟨hdeny, hne, rfl⟩
  · refine ⟨fun h ↦ ?_, fun h ↦ ?_⟩
    · exact absurd (Operation.foldUpTo_eq_error_iff.1 h) (Operation.fold_ne_negatives _ _ ns)
    · have herror := refuseNegatives_eq_error_iff.2 ⟨h.1, h.2.2 ▸ h.2.1, rfl⟩
      rw [hrefused] at herror
      exact nomatch herror

/-- What is reported of a text is what is negative among its numbers. -/
theorem eq_filter_of_calculate_eq_negatives {c : Configuration} {text : String}
    {ns : List Number} (h : c.calculate text = .error (.negatives ns)) :
    ns ≠ [] ∧ ns = (c.numbers text).filter Number.isNegative := by
  by_cases hblank : isBlankText text = true
  · rw [c.calculate_of_isBlankText hblank] at h
    exact nomatch h
  · rw [c.calculate_of_not_isBlankText hblank] at h
    exact (calculateNumbers_eq_negatives_iff.1 h).2

/-! ### Reading a report -/

/-- The configurations that read reports: a comma is the only delimiter, and negative numbers are
denied. -/
def forReports (bound : Number) (op : Operation) : Configuration :=
  ⟨[","], true, bound, op⟩

/-- A list of negative numbers is refused for these numbers, whatever the bound and operation. -/
theorem calculate_forReports_joined {ns : List Number} (hns : ns ≠ [])
    (hneg : ∀ n ∈ ns, n.isNegative = true) (bound : Number) (op : Operation) :
    (forReports bound op).calculate (joined ", " ns) = .error (.negatives ns) := by
  have hall : ns.filter Number.isNegative = ns := List.filter_eq_self.2 hneg
  have hnumbers := calculate_joined setsApart_comma (forReports bound op) hns
  exact hnumbers.trans (calculateNumbers_eq_negatives_iff.2 ⟨rfl, hns, hall.symm⟩)

/-- **A report of negative numbers loses nothing.** It ends with a list that is refused for the very
numbers it lists, whatever the bound and the operation, so reports of different numbers are
different. The report about a text lists its negative numbers as they are written, each as often as
the text holds it and in the order of the text, and they can be had back from the list. -/
theorem message_negatives_read_back :
    (∀ ns : List Number, ns ≠ [] → (∀ n ∈ ns, n.isNegative = true) →
        (Fault.negatives ns).message = "Negatives not allowed: " ++ joined ", " ns ∧
          ∀ bound op, (forReports bound op).value (joined ", " ns) = .error (.negatives ns)) ∧
      (∀ ns ms : List Number,
        (Fault.negatives ns).message = (Fault.negatives ms).message → ns = ms) ∧
      ∀ (c : Configuration) (text : String) (ns : List Number),
        c.calculate text = .error (.negatives ns) →
          ns = (c.numbers text).filter Number.isNegative ∧
            (Fault.negatives ns).message = "Negatives not allowed: " ++ joined ", " ns ∧
            Delimiter.pieces [", "] (joined ", " ns) =
              ((c.numbers text).filter Number.isNegative).map Number.toText ∧
            ∀ bound op, (forReports bound op).value (joined ", " ns) = .error (.negatives ns) := by
  have hread : ∀ ns : List Number, ns ≠ [] → (∀ n ∈ ns, n.isNegative = true) →
      ∀ bound op, (forReports bound op).value (joined ", " ns) = .error (.negatives ns) := by
    intro ns hns hneg bound op
    rw [value, calculate_forReports_joined hns hneg]
    rfl
  refine ⟨fun ns hns hneg ↦ ⟨Fault.message_negatives ns, hread ns hns hneg⟩,
    fun ns ms ↦ Fault.negatives_inj_of_message_eq, fun c text ns h ↦ ?_⟩
  obtain ⟨hns, rfl⟩ := eq_filter_of_calculate_eq_negatives h
  exact ⟨rfl, Fault.message_negatives _, pieces_joined_comma hns,
    hread _ hns fun n hn ↦ (List.mem_filter.1 hn).2⟩

/-- The least number twice, with one between them that is not negative and one that is, in a text
that is cut at a semicolon. -/
theorem message_negatives_read_back_least :
    ({ delimiters := [";"] } : Configuration).calculate
        (";".intercalate ["-9223372036854775808", "7", "-1", "-9223372036854775808"]) =
        .error (.negatives [Number.ofToken "-9223372036854775808", Number.ofToken "-1",
          Number.ofToken "-9223372036854775808"]) ∧
      (Fault.negatives [Number.ofToken "-9223372036854775808", Number.ofToken "-1",
          Number.ofToken "-9223372036854775808"]).message =
        "Negatives not allowed: -9223372036854775808, -1, -9223372036854775808" ∧
      (forReports Number.zero .quotient).value "-9223372036854775808, -1, -9223372036854775808" =
        .error (.negatives [Number.ofToken "-9223372036854775808", Number.ofToken "-1",
          Number.ofToken "-9223372036854775808"]) ∧
      Delimiter.pieces [", "] "-9223372036854775808, -1, -9223372036854775808" =
        ["-9223372036854775808", "-1", "-9223372036854775808"] := by
  have hcalculate : ({ delimiters := [";"] } : Configuration).calculate
      (";".intercalate ["-9223372036854775808", "7", "-1", "-9223372036854775808"]) =
      .error (.negatives [Number.ofToken "-9223372036854775808", Number.ofToken "-1",
        Number.ofToken "-9223372036854775808"]) := by
    rw [calculate_of_not_isHeaded _ (by decide) (by decide),
      Delimiter.pieces_singleton_intercalate (by decide) (by decide) (by simp)]
    decide
  have hjoined : joined ", " [Number.ofToken "-9223372036854775808", Number.ofToken "-1",
      Number.ofToken "-9223372036854775808"] =
      "-9223372036854775808, -1, -9223372036854775808" := by
    decide +kernel
  obtain ⟨hlist, -, htext⟩ := message_negatives_read_back
  obtain ⟨hmessage, hread⟩ := hlist [Number.ofToken "-9223372036854775808", Number.ofToken "-1",
    Number.ofToken "-9223372036854775808"] (by decide) (by decide)
  obtain ⟨hfilter, -, hpieces, -⟩ := htext _ _ _ hcalculate
  rw [hjoined] at hmessage hread hpieces
  rw [← hfilter] at hpieces
  exact ⟨hcalculate, hmessage, hread _ _, hpieces.trans (by decide +kernel)⟩

end Configuration

end StringCalculator
