import StringCalculator.Number
import StringCalculator.Proofs.Trimming

/-!
# Spellings of numbers

What a token stands for, where it is known how it was written: the shortest spelling of a number is
read back as that number (`ofToken_toText`), and blanks alone spell none, which counts as zero
(`ofToken_of_isBlankText`). The shortest spelling has digits and at most a minus sign, so there is
nothing to trim in it, and no delimiter that begins with a blank begins inside it.
-/

namespace StringCalculator

theorem not_isBlank_of_isDigit {c : Char} (h : c.isDigit = true) : ¬isBlank c = true := by
  have hrange : 48 ≤ c.toNat ∧ c.toNat ≤ 57 := Char.isDigit_iff_toNat.1 h
  exact not_isBlank_of_toNat (by omega) (by omega)

namespace Number

/-! ### The shortest spelling -/

/-- Numbers are written with digits and a minus sign. -/
theorem isDigit_or_eq_of_mem_decimal {n : Int} {c : Char} (h : c ∈ decimal n) :
    c.isDigit = true ∨ c = '-' := by
  have hdigits : ∀ {d : Char}, d ∈ Nat.toDigits 10 n.natAbs → d.isDigit = true :=
    fun hd ↦ Nat.isDigit_of_mem_toDigits (by decide) (by decide) hd
  rw [decimal] at h
  split at h
  · rcases List.mem_cons.1 h with rfl | h
    · exact Or.inr rfl
    · exact Or.inl (hdigits h)
  · exact Or.inl (hdigits h)

/-- What is written for an integer has no blanks in it. -/
theorem not_isBlank_of_mem_decimal {n : Int} {c : Char} (h : c ∈ decimal n) :
    ¬isBlank c = true := by
  rcases isDigit_or_eq_of_mem_decimal h with h | rfl
  · exact not_isBlank_of_isDigit h
  · decide

theorem decimal_ne_nil (n : Int) : decimal n ≠ [] := by
  rw [decimal]
  split
  · exact List.cons_ne_nil _ _
  · exact Nat.toDigits_ne_nil

/-- No other characters are in the shortest spelling. -/
theorem not_mem_toText {c : Char} (hdigit : ¬c.isDigit = true) (hminus : c ≠ '-') (n : Number) :
    c ∉ n.toText.toList := by
  rw [toText, String.toList_ofList]
  intro h
  rcases isDigit_or_eq_of_mem_decimal h with h | h
  · exact hdigit h
  · exact hminus h

/-- A number is read back from its shortest spelling. -/
@[simp]
theorem ofToken_toText (n : Number) : ofToken n.toText = n := by
  have htrim : trim n.digits = n.digits :=
    trim_of_forall_not_isBlank fun _ hc ↦ not_isBlank_of_mem_decimal hc
  rw [ofToken, toText, String.toList_ofList, htrim, read?_digits]
  rfl

/-- A blank token spells no number. -/
theorem ofToken_of_isBlankText {token : String} (h : isBlankText token = true) :
    ofToken token = zero := by
  rw [ofToken, trim_eq_nil_iff.2 h]
  rfl

end Number

end StringCalculator
