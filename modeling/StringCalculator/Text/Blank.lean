/-!
# Blank characters

A character is blank if it has the Unicode property `White_Space`. That set is larger than the
ASCII one and larger than `Char.isWhitespace`, so it is written out as ranges of code points.
Pieces of text are lists of characters here: trimming is then two `dropWhile`s, one of them on the
reversed list, and what is left of a text is reasoned about as a list.
-/

namespace StringCalculator

/-- The ranges of code points with the property `White_Space`, in increasing order, both ends
included. -/
def blankRanges : List (Nat × Nat) :=
  [(0x0009, 0x000D), (0x0020, 0x0020), (0x0085, 0x0085), (0x00A0, 0x00A0), (0x1680, 0x1680),
    (0x2000, 0x200A), (0x2028, 0x2029), (0x202F, 0x202F), (0x205F, 0x205F), (0x3000, 0x3000)]

/-- Whether a character is white space in the sense of Unicode. -/
def isBlank (c : Char) : Bool :=
  blankRanges.any fun r ↦ decide (r.1 ≤ c.toNat) && decide (c.toNat ≤ r.2)

/-- The text without the blanks it begins with. -/
def trimStart (s : List Char) : List Char :=
  s.dropWhile isBlank

/-- The text without the blanks it ends with. -/
def trimEnd (s : List Char) : List Char :=
  (s.reverse.dropWhile isBlank).reverse

/-- The text without the blanks around it. Blanks between other characters stay. -/
def trim (s : List Char) : List Char :=
  trimEnd (trimStart s)

/-- Whether a text is empty or holds blanks only, that is, whether trimming leaves nothing. -/
def isBlankText (s : String) : Bool :=
  s.toList.all isBlank

/-- The blank characters, one by one. -/
theorem isBlank_iff {c : Char} :
    isBlank c = true ↔
      c.toNat ∈ [0x09, 0x0A, 0x0B, 0x0C, 0x0D, 0x20, 0x85, 0xA0, 0x1680, 0x2000, 0x2001, 0x2002,
        0x2003, 0x2004, 0x2005, 0x2006, 0x2007, 0x2008, 0x2009, 0x200A, 0x2028, 0x2029, 0x202F,
        0x205F, 0x3000] := by
  simp only [isBlank, blankRanges, List.any_cons, List.any_nil, Bool.or_eq_true, Bool.and_eq_true,
    decide_eq_true_eq, Bool.false_eq_true, or_false, List.mem_cons, List.not_mem_nil]
  omega

/-! ### Laws of trimming -/

theorem trimStart_cons_of_isBlank {c : Char} (h : isBlank c = true) (s : List Char) :
    trimStart (c :: s) = trimStart s :=
  List.dropWhile_cons_of_pos h

theorem trimStart_cons_of_not_isBlank {c : Char} (h : ¬isBlank c = true) (s : List Char) :
    trimStart (c :: s) = c :: s :=
  List.dropWhile_cons_of_neg h

/-- Trimming leaves nothing of a blank text, and something of any other. -/
theorem trimStart_eq_nil_iff {s : List Char} : trimStart s = [] ↔ s.all isBlank = true := by
  induction s with
  | nil => simp [trimStart]
  | cons c r ih =>
    rw [List.all_cons, Bool.and_eq_true]
    by_cases hc : isBlank c = true
    · rw [trimStart_cons_of_isBlank hc, ih]
      exact ⟨fun h ↦ ⟨hc, h⟩, fun h ↦ h.2⟩
    · rw [trimStart_cons_of_not_isBlank hc]
      exact ⟨fun h ↦ absurd h (List.cons_ne_nil c r), fun h ↦ absurd h.1 hc⟩

/-- Once the leading blanks are gone there are none left to drop. -/
theorem trimStart_trimStart (s : List Char) : trimStart (trimStart s) = trimStart s := by
  induction s with
  | nil => rfl
  | cons c r ih =>
    by_cases hc : isBlank c = true
    · rw [trimStart_cons_of_isBlank hc, ih]
    · rw [trimStart_cons_of_not_isBlank hc, trimStart_cons_of_not_isBlank hc]

/-- A text is blank exactly when trimming leaves nothing of it. -/
theorem trim_eq_nil_iff {s : List Char} : trim s = [] ↔ s.all isBlank = true := by
  have hend : trim s = [] ↔ trimStart (trimStart s).reverse = [] := by
    simp [trim, trimEnd, trimStart]
  rw [hend, trimStart_eq_nil_iff, List.all_reverse, ← trimStart_eq_nil_iff, trimStart_trimStart,
    trimStart_eq_nil_iff]

end StringCalculator
