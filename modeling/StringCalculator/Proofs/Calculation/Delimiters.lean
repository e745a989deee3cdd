import StringCalculator.Proofs.Calculation.Basic
import StringCalculator.Proofs.Delimiter.Ranking

/-!
# Calculations and the delimiters in force

Which delimiters are in force is all that a calculation asks of them. Cutting sees its delimiters
ranked, and ranking forgets where they were listed, how often, and the empty ones. So configurations
that list the same delimiters give the same outcome for every text, and so do headers that declare
the same ones apart from those that are configured anyway (`calculate_eq_of_interchangeable`).

Both statements follow from one fact about a payload and the lists it is cut at
(`Interchangeable.calculateNumbers_eq`). What is left is to see that the lists in force, the
configured delimiters and then the declared ones, hold the same delimiters.
-/

namespace StringCalculator

namespace Configuration

open Delimiter (SameDelimiters)
open Header (attach bracketed declared IsHeaded)

/-- Two configurations that differ at most in where and how often they list a delimiter, and in
empty delimiters. -/
structure Interchangeable (c c' : Configuration) : Prop where
  /-- Both refuse negative numbers, or neither does. -/
  denyNegatives : c.denyNegatives = c'.denyNegatives
  /-- The same numbers count. -/
  upperBound : c.upperBound = c'.upperBound
  /-- They are folded with the same operation. -/
  operation : c.operation = c'.operation
  /-- The nonempty delimiters are the same. -/
  delimiters : SameDelimiters c.delimiters c'.delimiters

/-- Empty delimiters make no difference. -/
theorem interchangeable_withoutEmptyDelimiters (c : Configuration) :
    Interchangeable c.withoutEmptyDelimiters c :=
  ⟨rfl, rfl, rfl, Delimiter.sameDelimiters_filter_not_isEmpty c.delimiters⟩

section

variable {c c' : Configuration}

/-- Only which delimiters a payload is cut at shows in the outcome. -/
theorem Interchangeable.calculateNumbers_eq (h : Interchangeable c c') {ds ds' : List String}
    (hds : SameDelimiters ds ds') (payload : String) :
    c.calculateNumbers ((Delimiter.pieces ds payload).map Number.ofToken) =
      c'.calculateNumbers ((Delimiter.pieces ds' payload).map Number.ofToken) := by
  rw [Delimiter.pieces_congr hds, calculateNumbers, calculateNumbers, h.denyNegatives,
    h.upperBound, h.operation]

/-- Configurations that are interchangeable give every text the same outcome. -/
theorem Interchangeable.calculate_eq (h : Interchangeable c c') (text : String) :
    c.calculate text = c'.calculate text := by
  by_cases hblank : isBlankText text = true
  · rw [c.calculate_of_isBlankText hblank, c'.calculate_of_isBlankText hblank, h.operation]
  · rw [c.calculate_of_not_isBlankText hblank, c'.calculate_of_not_isBlankText hblank]
    -- the header of the text declares the same delimiters on both sides
    exact h.calculateNumbers_eq (h.delimiters.append fun _ _ ↦ Iff.rfl) _

/-- Declaring what is configured brings nothing new into force. -/
theorem Interchangeable.sameDelimiters_append (h : Interchangeable c c') {ds ds' : List String}
    (hds : ∀ d, d ∉ c.delimiters → (d ∈ ds ↔ d ∈ ds')) :
    SameDelimiters (c.delimiters ++ ds) (c'.delimiters ++ ds') := by
  intro d hd
  rw [List.mem_append, List.mem_append, ← h.delimiters d hd]
  by_cases hc : d ∈ c.delimiters
  · exact ⟨fun _ ↦ Or.inl hc, fun _ ↦ Or.inl hc⟩
  · rw [hds d hc]

/-- **Delimiters act as a set.** Configurations that list the same nonempty delimiters give the same
outcome for every text, so a configuration may as well be without its empty ones. Declaring
delimiters that are configured anyway changes nothing either: neither among others in a header, nor
as a header of its own in front of a text that would be cut without it. -/
theorem calculate_eq_of_interchangeable (h : Interchangeable c c') :
    (∀ text, c.calculate text = c'.calculate text) ∧
      (∀ text, c.withoutEmptyDelimiters.calculate text = c'.calculate text) ∧
      (∀ spec spec' payload, '\n' ∉ spec.toList → '\n' ∉ spec'.toList →
        (∀ d, d ∉ c.delimiters → (d ∈ declared spec ↔ d ∈ declared spec')) →
          c.calculate (attach spec payload) = c'.calculate (attach spec' payload)) ∧
      (∀ spec payload, '\n' ∉ spec.toList → declared spec ⊆ c.delimiters →
        ¬isBlankText payload = true → ¬IsHeaded payload →
          c.calculate (attach spec payload) = c'.calculate payload) := by
  refine ⟨h.calculate_eq, fun text ↦ ?_, ?_, ?_⟩
  · rw [c.interchangeable_withoutEmptyDelimiters.calculate_eq, h.calculate_eq]
  · intro spec spec' payload hspec hspec' hds
    rw [c.calculate_attach hspec, c'.calculate_attach hspec']
    exact h.calculateNumbers_eq (h.sameDelimiters_append hds) payload
  · intro spec payload hspec hsub hblank hheaded
    -- as if the header declared nothing
    have hds : ∀ d, d ∉ c.delimiters → (d ∈ declared spec ↔ d ∈ []) := fun d hd ↦
      ⟨fun hmem ↦ absurd (hsub hmem) hd, fun hmem ↦ absurd hmem List.not_mem_nil⟩
    have hsame := h.sameDelimiters_append hds
    rw [List.append_nil] at hsame
    rw [c.calculate_attach hspec, c'.calculate_of_not_isHeaded hblank hheaded]
    exact h.calculateNumbers_eq hsame payload

end

/-- The same two delimiters in another order, one of them twice, with an empty one. A header
declares one of them again. -/
theorem calculate_eq_of_interchangeable_reordered :
    SameDelimiters [",", "", ",,", ","] [",,", ","] ∧
      ({ delimiters := [",", "", ",,", ","] } : Configuration).calculate "1,,2,3" =
        ({ delimiters := [",,", ","] } : Configuration).calculate "1,,2,3" ∧
      ({ delimiters := [",", "", ",,", ","] } : Configuration).calculate
          (attach (bracketed [",,", ";"]) "1,,2;3") =
        ({ delimiters := [",,", ","] } : Configuration).calculate
          (attach (bracketed [";"]) "1,,2;3") := by
  have hsame : SameDelimiters [",", "", ",,", ","] [",,", ","] := by
    intro d hd
    simp [hd, or_comm]
  have h : Interchangeable { delimiters := [",", "", ",,", ","] } { delimiters := [",,", ","] } :=
    ⟨rfl, rfl, rfl, hsame⟩
  have hall := calculate_eq_of_interchangeable h
  refine ⟨hsame, hall.1 _, hall.2.2.1 _ _ _ (by decide) (by decide) fun d hd ↦ ?_⟩
  rw [Header.declared_bracketed (by decide), Header.declared_bracketed (by decide)]
  have hd' : d ≠ ",," := by
    rintro rfl
    exact hd (by decide)
  simp [hd']

end Configuration

end StringCalculator
