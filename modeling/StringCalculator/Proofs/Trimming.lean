import Mathlib.Data.List.TakeWhile
import StringCalculator.Text.Blank

/-!
# What trimming leaves

A text is taken apart by trimming it: blanks, what is left, and blanks again
(`exists_eq_append_trim`). In the other direction there are two ways to tell what is left without
looking for it. A text without blanks is left of itself between blanks (`trim_append`), and whatever
stands between two texts that are not blank is left as it is, with its own blanks
(`trim_append_append`).
-/

namespace StringCalculator

/-- The visible characters of ASCII are not blank. -/
theorem not_isBlank_of_toNat {c : Char} (hle : 33 ≤ c.toNat) (hge : c.toNat ≤ 126) :
    ¬isBlank c = true := by
  rw [isBlank_iff]
  simp only [List.mem_cons, List.not_mem_nil, or_false]
  omega

/-! ### Between blanks -/

/-- Blanks in front of a text make no difference. -/
theorem trim_append_of_forall_isBlank {before : List Char}
    (h : ∀ c ∈ before, isBlank c = true) (s : List Char) : trim (before ++ s) = trim s := by
  rw [trim, trimStart, List.dropWhile_append_of_pos h]
  rfl

/-- Trimming takes off a run of blanks at either end, and nothing else. -/
theorem exists_eq_append_trim (s : List Char) :
    ∃ before after, s = before ++ trim s ++ after ∧ (∀ c ∈ before, isBlank c = true) ∧
      ∀ c ∈ after, isBlank c = true := by
  refine ⟨s.takeWhile isBlank, ((trimStart s).reverse.takeWhile isBlank).reverse, ?_,
    fun c hc ↦ List.mem_takeWhile_imp hc,
    fun c hc ↦ List.mem_takeWhile_imp (List.mem_reverse.1 hc)⟩
  have hend : trim s ++ ((trimStart s).reverse.takeWhile isBlank).reverse = trimStart s := by
    rw [trim, trimEnd, ← List.reverse_append, List.takeWhile_append_dropWhile,
      List.reverse_reverse]
  rw [List.append_assoc, hend, trimStart, List.takeWhile_append_dropWhile]

/-- What trimming leaves, if anything, is not blank. -/
theorem not_all_isBlank_trim {s : List Char} (h : trim s ≠ []) : ¬(trim s).all isBlank = true := by
  intro hblank
  obtain ⟨before, after, hs, hbefore, hafter⟩ := exists_eq_append_trim s
  refine h (trim_eq_nil_iff.2 (List.all_eq_true.2 fun c hc ↦ ?_))
  rw [hs, List.mem_append, List.mem_append] at hc
  rcases hc with (hc | hc) | hc
  · exact hbefore c hc
  · exact List.all_eq_true.1 hblank c hc
  · exact hafter c hc

/-- A text without blanks is what trimming leaves of it between blanks. -/
theorem trim_append {before s after : List Char} (hbefore : ∀ c ∈ before, isBlank c = true)
    (hs : ∀ c ∈ s, ¬isBlank c = true) (hne : s ≠ []) (hafter : ∀ c ∈ after, isBlank c = true) :
    trim (before ++ s ++ after) = s := by
  have hkeep : ∀ {t u : List Char}, (∀ c ∈ t, ¬isBlank c = true) → t ≠ [] →
      trimStart (t ++ u) = t ++ u := by
    intro t u ht hne
    obtain ⟨c, t, rfl⟩ := List.exists_cons_of_ne_nil hne
    exact trimStart_cons_of_not_isBlank (ht c List.mem_cons_self) (t ++ u)
  have hstart : trimStart (before ++ s ++ after) = s ++ after := by
    rw [trimStart, List.append_assoc, List.dropWhile_append_of_pos hbefore]
    exact hkeep hs hne
  have hend : trimStart (after.reverse ++ s.reverse) = s.reverse := by
    rw [trimStart, List.dropWhile_append_of_pos fun c hc ↦ hafter c (List.mem_reverse.1 hc),
      ← List.append_nil s.reverse]
    exact hkeep (fun c hc ↦ hs c (List.mem_reverse.1 hc)) (List.reverse_ne_nil_iff.2 hne)
  show (trimStart (trimStart (before ++ s ++ after)).reverse).reverse = s
  rw [hstart, List.reverse_append, hend, List.reverse_reverse]

/-- A text without blanks has none to trim. -/
theorem trim_of_forall_not_isBlank {s : List Char} (h : ∀ c ∈ s, ¬isBlank c = true) :
    trim s = s := by
  match s with
  | [] => rfl
  | c :: s => simpa using @trim_append [] (c :: s) [] nofun h (List.cons_ne_nil c s) nofun

/-! ### What stands inside -/

/-- Where the first part of a text is not blank, trimming the start stays within it. -/
theorem trimStart_append_of_not_blank {s : List Char} (h : ¬s.all isBlank = true)
    (t : List Char) : trimStart (s ++ t) = trimStart s ++ t := by
  rw [← trimStart_eq_nil_iff, trimStart] at h
  rw [trimStart, List.dropWhile_append, if_neg (by simpa using h)]
  rfl

/-- Where the last part is not blank, trimming the end stays within it. -/
theorem trimEnd_append_of_not_blank {t : List Char} (h : ¬t.all isBlank = true)
    (s : List Char) : trimEnd (s ++ t) = s ++ trimEnd t := by
  have hreverse : ¬t.reverse.all isBlank = true := by rwa [List.all_reverse]
  show (trimStart (s ++ t).reverse).reverse = s ++ (trimStart t.reverse).reverse
  rw [List.reverse_append, trimStart_append_of_not_blank hreverse, List.reverse_append,
    List.reverse_reverse]

/-- Trimming does not reach what stands between two texts that are not blank. -/
theorem trim_append_append {before after : List Char} (hbefore : ¬before.all isBlank = true)
    (hafter : ¬after.all isBlank = true) (s : List Char) :
    trim (before ++ s ++ after) = trimStart before ++ s ++ trimEnd after := by
  rw [trim, List.append_assoc, trimStart_append_of_not_blank hbefore, ← List.append_assoc,
    trimEnd_append_of_not_blank hafter]

end StringCalculator
