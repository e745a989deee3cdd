import StringCalculator.Proofs.Calculation.Basic
import StringCalculator.Proofs.Delimiter.Splitting
import StringCalculator.Proofs.Number

/-!
# Joined numbers

Numbers written out in a row, and calculated again. Whatever they are joined with, such a row begins
with a digit or a minus sign, so it is not blank and has no header. The delimiter that a row is cut
at may have blanks behind it in the row: the pieces then begin with these blanks, which are trimmed
when the pieces are read. `SetsApart` is what this takes of the delimiter and the blanks, and under
it a row of numbers is calculated as these numbers are (`calculate_joined`), and rows of different
numbers are different (`joined_injective`).
-/

namespace StringCalculator

/-- Numbers in their shortest spellings, with a separator between every two. -/
def joined (separator : String) (ns : List Number) : String :=
  separator.intercalate (ns.map Number.toText)

/-- Whether numbers that are joined with a delimiter and blanks behind it can be told apart at the
delimiter. -/
structure SetsApart (d blanks : String) : Prop where
  /-- The delimiter is not empty. -/
  ne_empty : d ≠ ""
  /-- There are only blanks behind it. -/
  all_blank : ∀ c ∈ blanks.toList, isBlank c = true
  /-- It does not begin inside the blanks. -/
  not_mem_blanks : ∀ c ∈ d.toList.head?, c ∉ blanks.toList
  /-- It does not begin inside a number. -/
  not_mem_toText : ∀ c ∈ d.toList.head?, ∀ n : Number, c ∉ n.toText.toList

variable {separator d blanks : String} {ns : List Number}

/-! ### How a row begins -/

/-- A row of numbers begins like a number. -/
theorem exists_toList_joined_eq_cons (h : ns ≠ []) :
    ∃ c r, (joined separator ns).toList = c :: r ∧ (c.isDigit = true ∨ c = '-') := by
  obtain ⟨n, ns, rfl⟩ := List.exists_cons_of_ne_nil h
  obtain ⟨c, r, hcr⟩ := List.exists_cons_of_ne_nil (Number.decimal_ne_nil n.toInt)
  obtain ⟨r', hr'⟩ : n.toText.toList <+: (joined separator (n :: ns)).toList := by
    rw [joined, List.map_cons, Delimiter.intercalate_cons_eq_woven]
    exact Delimiter.prefix_toList_woven _ _
  refine ⟨c, r ++ r', ?_, Number.isDigit_or_eq_of_mem_decimal (n := n.toInt) (by simp [hcr])⟩
  rw [← hr', Number.toText, String.toList_ofList, Number.digits, hcr, List.cons_append]

/-- A row of no numbers is the only empty one. -/
theorem joined_eq_empty_iff : joined separator ns = "" ↔ ns = [] := by
  constructor
  · intro h
    by_contra hns
    obtain ⟨c, r, hcr, -⟩ := @exists_toList_joined_eq_cons separator ns hns
    rw [h] at hcr
    exact List.cons_ne_nil c r hcr.symm
  · rintro rfl
    rfl

/-- So it is not blank. -/
theorem not_isBlankText_joined (h : ns ≠ []) : ¬isBlankText (joined separator ns) = true := by
  obtain ⟨c, r, hcr, hc⟩ := exists_toList_joined_eq_cons h
  rw [isBlankText, hcr, List.all_cons, Bool.and_eq_true]
  rintro ⟨hblank, -⟩
  rcases hc with hc | rfl
  · exact not_isBlank_of_isDigit hc hblank
  · exact absurd hblank (by decide)

/-- Nor does it have a header, which would begin with a slash. -/
theorem not_isHeaded_joined (h : ns ≠ []) : ¬Header.IsHeaded (joined separator ns) := by
  obtain ⟨c, r, hcr, hc⟩ := exists_toList_joined_eq_cons h
  rintro ⟨hslashes, -⟩
  rw [hcr, List.cons_prefix_cons] at hslashes
  obtain ⟨rfl, -⟩ := hslashes
  exact absurd hc (by decide)

/-! ### Reading a row back -/

/-- What stands behind a separator may as well be put in front of what follows it. -/
theorem intercalate_append_cons (d b t : String) (ts : List String) :
    (d ++ b).intercalate (t :: ts) = d.intercalate (t :: ts.map (b ++ ·)) := by
  have hfront : ∀ (u : String) (us : List String),
      b ++ d.intercalate (u :: us) = d.intercalate ((b ++ u) :: us) := by
    intro u us
    cases us with
    | nil => simp
    | cons v us => simp only [String.intercalate_cons_cons, String.append_assoc]
  induction ts generalizing t with
  | nil => simp
  | cons u us ih =>
    rw [String.intercalate_cons_cons, ih, List.map_cons, String.intercalate_cons_cons, ← hfront,
      String.append_assoc, String.append_assoc, String.append_assoc]

/-- A number is read past blanks. -/
theorem Number.ofToken_append (h : ∀ c ∈ blanks.toList, isBlank c = true) (token : String) :
    ofToken (blanks ++ token) = ofToken token := by
  rw [ofToken, String.toList_append, trim_append_of_forall_isBlank h]
  rfl

/-- A row that is cut at its separator gives its numbers back. -/
theorem SetsApart.map_ofToken_pieces_joined (h : SetsApart d blanks) (hns : ns ≠ []) :
    (Delimiter.pieces [d] (joined (d ++ blanks) ns)).map Number.ofToken = ns := by
  obtain ⟨n, ns, rfl⟩ := List.exists_cons_of_ne_nil hns
  have hfree : ∀ t ∈ n.toText :: (ns.map Number.toText).map (blanks ++ ·),
      ∀ c ∈ d.toList.head?, c ∉ t.toList := by
    intro t ht c hc
    rcases List.mem_cons.1 ht with rfl | ht
    · exact h.not_mem_toText c hc n
    · obtain ⟨u, hu, rfl⟩ := List.mem_map.1 ht
      obtain ⟨m, -, rfl⟩ := List.mem_map.1 hu
      rw [String.toList_append, List.mem_append, not_or]
      exact ⟨h.not_mem_blanks c hc, h.not_mem_toText c hc m⟩
  rw [joined, List.map_cons, intercalate_append_cons,
    Delimiter.pieces_singleton_intercalate h.ne_empty (List.cons_ne_nil _ _) hfree]
  simp [Function.comp_def, Number.ofToken_append h.all_blank]

/-- **A row of numbers is calculated as the numbers are.** -/
theorem calculate_joined (h : SetsApart d blanks) (c : Configuration) (hns : ns ≠ []) :
    (c.withDelimiters [d]).calculate (joined (d ++ blanks) ns) = c.calculateNumbers ns := by
  rw [(c.withDelimiters [d]).calculate_of_not_isHeaded (not_isBlankText_joined hns)
    (not_isHeaded_joined hns)]
  show c.calculateNumbers ((Delimiter.pieces [d] (joined (d ++ blanks) ns)).map Number.ofToken) = _
  rw [h.map_ofToken_pieces_joined hns]

/-- Rows of different numbers are different. -/
theorem joined_injective (h : SetsApart d blanks) {ms : List Number}
    (heq : joined (d ++ blanks) ns = joined (d ++ blanks) ms) : ns = ms := by
  rcases eq_or_ne ns [] with rfl | hns
  · exact (joined_eq_empty_iff.1 heq.symm).symm
  · rcases eq_or_ne ms [] with rfl | hms
    · exact joined_eq_empty_iff.1 heq
    · rw [← h.map_ofToken_pieces_joined hns, heq, h.map_ofToken_pieces_joined hms]

end StringCalculator
