import Mathlib.Algebra.BigOperators.Group.List.Basic
import StringCalculator.Proofs.Calculation.Headers
import StringCalculator.Proofs.Delimiter.Concatenation
import StringCalculator.Proofs.Folding.Progress

/-!
# Sums of texts put together

What a sum makes of two texts with a separator between them: the sum of what it makes of each. The
pieces of the whole are those of the one text and then those of the other, and adding does not mind
where a list of numbers is taken apart.

A text of blanks is not cut at all, so nothing can be said of its pieces by looking at the
calculation. But its pieces would count as zeros, and zeros do not show in a sum, whether the bound
keeps them or not. So every sum is `worth` what its pieces are, also where no piece was looked at
(`toInt_of_value_eq_ok`), and it makes no difference which of the texts are blank.
-/

namespace StringCalculator

namespace Configuration

open Delimiter (Separates)
open Header (IsHeaded)

section

variable {c : Configuration} {text : String} {v : Number}

/-- What pieces of text add up to, over the integers: their numbers up to the bound. -/
def worth (c : Configuration) (ts : List String) : Int :=
  (((ts.map Number.ofToken).filter fun n ↦ decide (n ≤ c.upperBound)).map Number.toInt).sum

/-- Tokens are worth as much together as apart. -/
theorem worth_append (c : Configuration) (ts us : List String) :
    c.worth (ts ++ us) = c.worth ts + c.worth us := by
  rw [worth, List.map_append, List.filter_append, List.map_append, List.sum_append]
  rfl

/-- The pieces of a blank text are worth nothing, however it is cut. -/
theorem worth_of_isBlankText (c : Configuration) {ds : List String}
    (h : isBlankText text = true) : c.worth (Delimiter.pieces ds text) = 0 := by
  refine List.sum_eq_zero fun i hi ↦ ?_
  obtain ⟨n, hn, rfl⟩ := List.mem_map.1 hi
  rw [forall_eq_zero_of_isBlankText h n (List.mem_filter.1 hn).1]
  rfl

/-- A list of numbers sums up to the exact sum of those within the bound. -/
theorem toInt_of_calculateNumbers_eq_ok {ns : List Number} {e : Evaluation}
    (hop : c.operation = .sum) (h : c.calculateNumbers ns = .ok e) :
    e.value.toInt = ((ns.filter fun n ↦ decide (n ≤ c.upperBound)).map Number.toInt).sum := by
  obtain ⟨-, hfold⟩ := calculateNumbers_eq_ok_iff.1 h
  obtain ⟨-, hoperands, hvalue⟩ := Operation.foldUpTo_eq_ok_iff.1 hfold
  rw [hop] at hvalue
  rw [Operation.toInt_of_fold hvalue, Operation.total_sum, hoperands]

/-- A sum is worth what its pieces are, and a blank text is no exception. -/
theorem toInt_of_value_eq_ok (hop : c.operation = .sum) (hheaded : ¬IsHeaded text)
    (h : c.value text = .ok v) : v.toInt = c.worth (Delimiter.pieces c.delimiters text) := by
  by_cases hblank : isBlankText text = true
  · rw [c.value_of_isBlankText hblank] at h
    rw [c.worth_of_isBlankText hblank, ← Except.ok.inj h]
    rfl
  · rw [value, c.calculate_of_not_isHeaded hblank hheaded] at h
    rcases hcalculate : c.calculateNumbers
      ((Delimiter.pieces c.delimiters text).map Number.ofToken) with f | e
    · rw [hcalculate] at h
      cases h
    · rw [hcalculate] at h
      obtain rfl : e.value = v := Except.ok.inj h
      exact toInt_of_calculateNumbers_eq_ok hop hcalculate

end

/-- **Cutting at a separator takes a text apart.** The pieces of two texts with a separator between
them are the pieces of the one and then the pieces of the other. Hence sums of such texts add up,
also if some of them are blank, as long as none of them has a header. A delimiter separates any two
texts if all delimiters are single characters. -/
theorem value_append_of_separates (c : Configuration) (p d q : String) :
    (Separates c.delimiters p d q →
        Delimiter.pieces c.delimiters (p ++ d ++ q) =
          Delimiter.pieces c.delimiters p ++ Delimiter.pieces c.delimiters q ∧
        (c.operation = .sum → ¬IsHeaded p → ¬IsHeaded q → ¬IsHeaded (p ++ d ++ q) →
          ∀ a b v, c.value p = .ok a → c.value q = .ok b → c.value (p ++ d ++ q) = .ok v →
            v.toInt = a.toInt + b.toInt)) ∧
      ((∀ e ∈ c.delimiters, e.length = 1) → d ∈ c.delimiters →
        Separates c.delimiters p d q) := by
  constructor
  · intro h
    refine ⟨h.pieces_append, fun hop hp hq hpq a b v ha hb hv ↦ ?_⟩
    rw [toInt_of_value_eq_ok hop hpq hv, h.pieces_append, worth_append,
      ← toInt_of_value_eq_ok hop hp ha, ← toInt_of_value_eq_ok hop hq hb]
  · intro hds hd
    exact Delimiter.separates_of_forall_length_eq_one hds hd p q

/-- Two stars separate two texts, of which the first has a single star inside. And a blank text that
would be cut, as the blank is a delimiter, has nothing to add to what a comma separates it from. -/
theorem value_append_of_separates_stars :
    (Separates ["*", "**"] "1*2" "**" "3" ∧
        Delimiter.pieces ["*", "**"] "1*2**3" =
          Delimiter.pieces ["*", "**"] "1*2" ++ Delimiter.pieces ["*", "**"] "3") ∧
      (({ delimiters := [",", " "] } : Configuration).value "  " = .ok (Number.ofToken "0") ∧
        ({ delimiters := [",", " "] } : Configuration).value "5" = .ok (Number.ofToken "5") ∧
        ({ delimiters := [",", " "] } : Configuration).value "  ,5" = .ok (Number.ofToken "5") ∧
        (Number.ofToken "5").toInt = (Number.ofToken "0").toInt + (Number.ofToken "5").toInt) := by
  have hstars : Separates ["*", "**"] "1*2" "**" "3" := by decide +kernel
  have hpieces := ((value_append_of_separates { delimiters := ["*", "**"] } "1*2" "**" "3").1
    hstars).1
  obtain ⟨hcut, hsingle⟩ := value_append_of_separates { delimiters := [",", " "] } "  " "," "5"
  have hblank : ({ delimiters := [",", " "] } : Configuration).value "  " =
      .ok (Number.ofToken "0") := by decide +kernel
  have hfive : ({ delimiters := [",", " "] } : Configuration).value "5" =
      .ok (Number.ofToken "5") := by decide +kernel
  have hwhole : ({ delimiters := [",", " "] } : Configuration).value "  ,5" =
      .ok (Number.ofToken "5") := by decide +kernel
  have hsum := (hcut (hsingle (by decide) (by decide))).2 rfl (by decide) (by decide) (by decide)
    _ _ _ hblank hfive hwhole
  exact ⟨⟨hstars, hpieces⟩, hblank, hfive, hwhole, hsum⟩

end Configuration

end StringCalculator
