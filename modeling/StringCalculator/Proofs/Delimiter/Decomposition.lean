import Mathlib.Data.List.Infix
import StringCalculator.Proofs.Offset.Scan

/-!
# The splitting of a text

Every text has exactly one leftmost-longest splitting, and cutting gives its pieces
(`existsUnique_splits`). So `Splits` determines what cutting does, and says it without a scan.

That there is one is read off the way the scan goes. Where it stops at a delimiter, the delimiter is
put in front of the splitting of the rest, behind an empty piece. Where it skips a character, the
first piece of the rest grows by it (`Splits.skip`).

That there is no other one rests on two facts. The pieces are those that cutting gives, so two
splittings of a text have the same pieces. Once the pieces before it are known, a separator stands
at a known place, and the longest delimiter there is only one.
-/

namespace StringCalculator

namespace Delimiter

variable {ds : List String}

instance (ds : List String) (piece rest : List Char) : Decidable (Undelimited ds piece rest) :=
  decidable_of_iff
    (∀ v ∈ piece.tails, v ≠ [] → ∀ d ∈ ds, d ≠ "" → ¬d.toList <+: v ++ rest)
    (forall_congr' fun v ↦ imp_congr_left (List.mem_tails v piece))

instance (ds : List String) (d : String) (s : List Char) : Decidable (LongestAt ds d s) :=
  decidable_of_iff
    (d ∈ ds ∧ d ≠ "" ∧ d.toList <+: s ∧
      ∀ e ∈ ds, e.toList <+: s → e.toList.length ≤ d.toList.length)
    ⟨fun ⟨hmem, hne, hstarts, hlongest⟩ ↦ ⟨hmem, hne, hstarts, hlongest⟩,
      fun h ↦ ⟨h.mem, h.ne_empty, h.starts, h.longest⟩⟩

/-! ### Growing a piece -/

theorem undelimited_nil (ds : List String) (rest : List Char) : Undelimited ds [] rest :=
  fun _ hv hne ↦ absurd (List.suffix_nil.1 hv) hne

/-- No delimiter begins in a piece if none begins at its first character and none later on. -/
theorem undelimited_cons_iff {c : Char} {piece rest : List Char} :
    Undelimited ds (c :: piece) rest ↔
      (∀ d ∈ ds, d ≠ "" → ¬d.toList <+: c :: (piece ++ rest)) ∧ Undelimited ds piece rest := by
  constructor
  · intro h
    exact ⟨h (c :: piece) (List.suffix_refl _) (List.cons_ne_nil _ _),
      fun v hv ↦ h v (hv.trans (List.suffix_cons c piece))⟩
  · rintro ⟨hc, hpiece⟩ v hv hne
    rcases List.suffix_cons_iff.1 hv with rfl | hv
    · exact hc
    · exact hpiece v hv hne

theorem toList_woven_ofList_cons (c : Char) (t : String) (ps : List (String × String)) :
    (woven (String.ofList (c :: t.toList)) ps).toList = c :: (woven t ps).toList := by
  cases ps with
  | nil => exact String.toList_ofList
  | cons p ps =>
    obtain ⟨s, w⟩ := p
    rw [toList_woven_cons, toList_woven_cons, String.toList_ofList, List.cons_append]

/-- A character at which no delimiter begins goes into the first piece. -/
theorem Splits.skip {c : Char} {t : String} {ps : List (String × String)}
    (hnone : ∀ d ∈ ds, d ≠ "" → ¬d.toList <+: c :: (woven t ps).toList) (h : Splits ds t ps) :
    Splits ds (String.ofList (c :: t.toList)) ps := by
  cases h with
  | last free =>
    refine .last ?_
    rw [String.toList_ofList, undelimited_cons_iff, List.append_nil]
    exact ⟨hnone, free⟩
  | cons free longest rest =>
    refine .cons ?_ longest rest
    rw [String.toList_ofList, undelimited_cons_iff, ← toList_woven_cons]
    exact ⟨hnone, free⟩

/-! ### Existence and uniqueness -/

/-- The scan leaves a splitting behind. -/
theorem exists_splits_of_scans {s : List Char} {ts : List (List Char)} (h : Scans ds s ts) :
    ∃ t ps, Splits ds t ps ∧ (woven t ps).toList = s := by
  induction h with
  | nil => exact ⟨"", [], .last (undelimited_nil ds _), rfl⟩
  | @found d r ts longest _ ih =>
    obtain ⟨t, ps, hsplits, rfl⟩ := ih
    exact ⟨"", (d, t) :: ps, .cons (undelimited_nil ds _) longest hsplits,
      by rw [toList_woven_cons]; rfl⟩
  | skipped hnone _ ih =>
    obtain ⟨t, ps, hsplits, rfl⟩ := ih
    exact ⟨_, ps, hsplits.skip hnone, toList_woven_ofList_cons _ t ps⟩

/-- Every text has a decomposition. -/
theorem exists_splits (ds : List String) (text : String) :
    ∃ t ps, Splits ds t ps ∧ woven t ps = text := by
  obtain ⟨t, ps, hsplits, htext⟩ := exists_splits_of_scans (scans_cut ds text.toList)
  exact ⟨t, ps, hsplits, String.toList_injective htext⟩

/-- A text has no more than one splitting. -/
theorem Splits.unique {t t' : String} {ps ps' : List (String × String)} (h : Splits ds t ps)
    (h' : Splits ds t' ps') (heq : woven t ps = woven t' ps') : t = t' ∧ ps = ps' := by
  induction h generalizing t' ps' with
  | @last t free =>
    have hpieces := pieces_woven (Splits.last free)
    rw [heq, pieces_woven h'] at hpieces
    obtain ⟨rfl, hnil⟩ := List.cons.inj hpieces
    exact ⟨rfl, (List.map_eq_nil_iff.1 hnil).symm⟩
  | @cons t s w ps free longest rest ih =>
    have hpieces := pieces_woven (Splits.cons free longest rest)
    rw [heq, pieces_woven h'] at hpieces
    obtain ⟨rfl, hlater⟩ := List.cons.inj hpieces
    cases h' with
    | last => exact absurd hlater.symm (List.cons_ne_nil _ _)
    | @cons _ s' w' ps' _ longest' rest' =>
      -- the separators stand at one place, so they are the longest delimiter there
      have hplace : s.toList ++ (woven w ps).toList = s'.toList ++ (woven w' ps').toList := by
        have htext := congrArg String.toList heq
        rwa [toList_woven_cons, toList_woven_cons, List.append_cancel_left_eq] at htext
      rw [← hplace] at longest'
      obtain rfl := longest.unique longest'
      obtain ⟨rfl, rfl⟩ := ih rest' (String.toList_injective (List.append_cancel_left hplace))
      exact ⟨rfl, rfl⟩

/-- If all delimiters are empty, the text is a piece as a whole. -/
theorem splits_of_forall_eq_empty (hds : ∀ d ∈ ds, d = "") (text : String) : Splits ds text [] :=
  .last fun _ _ _ d hd hne ↦ absurd (hds d hd) hne

/-- **Cutting gives the pieces of the one leftmost-longest splitting.** Every text is woven from
pieces and separators such that no delimiter begins inside a piece and each separator is the longest
delimiter where it stands. There is only one way to do so, and its pieces, empty ones among them,
are what the text is cut into. Without a delimiter the text is one piece. -/
theorem existsUnique_splits (ds : List String) (text : String) :
    (∃ t ps, Splits ds t ps ∧ woven t ps = text ∧ pieces ds text = t :: ps.map Prod.snd ∧
      ∀ t' ps', Splits ds t' ps' → woven t' ps' = text → t' = t ∧ ps' = ps) ∧
      ((∀ d ∈ ds, d = "") → pieces ds text = [text]) := by
  constructor
  · obtain ⟨t, ps, hsplits, rfl⟩ := exists_splits ds text
    exact ⟨t, ps, hsplits, rfl, pieces_woven hsplits, fun _ _ h htext ↦ h.unique hsplits htext⟩
  · intro hds
    exact pieces_woven (splits_of_forall_eq_empty hds text)

/-- Of four stars the first three are one delimiter, although each is a delimiter too, and nothing
stands between it and the fourth. -/
theorem existsUnique_splits_stars :
    Splits ["*", "", "***"] "1" [("***", ""), ("*", "2")] ∧
      pieces ["*", "", "***"] "1****2" = ["1", "", "2"] := by
  have hsplits : Splits ["*", "", "***"] "1" [("***", ""), ("*", "2")] :=
    .cons (by decide +kernel) (by decide +kernel)
      (.cons (by decide +kernel) (by decide +kernel) (.last (by decide +kernel)))
  obtain ⟨⟨t, ps, -, -, hpieces, hunique⟩, -⟩ := existsUnique_splits ["*", "", "***"] "1****2"
  obtain ⟨rfl, rfl⟩ := hunique _ _ hsplits (by decide +kernel)
  exact ⟨hsplits, hpieces⟩

end Delimiter

end StringCalculator
