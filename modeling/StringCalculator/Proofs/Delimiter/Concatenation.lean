import Mathlib.Data.List.Find
import StringCalculator.Proofs.Delimiter.Decomposition

/-!
# Cutting at a separator

Cutting a text that was put together from two texts with a delimiter between them. The pieces are
those of the one text and then those of the other, if the delimiter separates them (`Separates`):
no delimiter that begins inside the first text reaches over its end, and what is found behind it is
the delimiter and not a longer one. Single characters always separate.

The first condition makes every choice of the scan in the first text the choice it makes in the
whole text, since what begins there is the same with and without the rest
(`firstAt?_append_of_forall`). So the scan comes to the end of the first text, without a look at
what is behind it.
-/

namespace StringCalculator

namespace Delimiter

/-! ### Scanning into another text -/

/-- What is found in a text does not change with what is behind it, if nothing found runs over. -/
theorem firstAt?_append_of_forall {ds : List (List Char)} {s rest : List Char}
    (h : ∀ d ∈ ds, d <+: s ++ rest → d.length ≤ s.length) :
    firstAt? ds (s ++ rest) = firstAt? ds s := by
  refine List.find?_congr fun d hd ↦ ?_
  rw [Bool.eq_iff_iff, List.isPrefixOf_iff_prefix, List.isPrefixOf_iff_prefix]
  constructor
  · intro hpre
    exact List.prefix_of_prefix_length_le hpre (List.prefix_append s rest) (h d hd hpre)
  · intro hpre
    exact hpre.trans (List.prefix_append s rest)

/-- Where the scan finds the same in a text with and without the rest behind it, and a delimiter
ends the last piece of the text, the pieces of the rest follow. -/
theorem cut_append_of_firstAt?_eq {ds : List (List Char)} {s rest : List Char}
    {ts : List (List Char)} (hrest : cut ds rest = [] :: ts)
    (h : ∀ v, v <:+ s → v ≠ [] → firstAt? ds (v ++ rest) = firstAt? ds v) :
    cut ds (s ++ rest) = cut ds s ++ ts := by
  induction s using cut.induct ds with
  | case1 =>
    rw [cut_nil]
    exact hrest
  | case2 c s d hd ih =>
    have hsame : firstAt? ds (c :: (s ++ rest)) = some d :=
      (h (c :: s) (List.suffix_refl _) (List.cons_ne_nil c s)).trans hd
    have hpre : d <+: c :: s := by simpa using List.find?_some hd
    -- the delimiter is found inside the text, so what is dropped of it is too
    have hdrop : (s ++ rest).drop (d.length - 1) = s.drop (d.length - 1) ++ rest := by
      have hlength := hpre.length_le
      rw [List.length_cons] at hlength
      exact List.drop_append_of_le_length (by omega)
    have hnext := ih fun v hv ↦
      h v ((hv.trans (List.drop_suffix _ _)).trans (List.suffix_cons c s))
    rw [List.cons_append, cut, hsame, cut, hd]
    show [] :: cut ds ((s ++ rest).drop (d.length - 1)) = _
    rw [hdrop, hnext]
    rfl
  | case3 c s hnone ih =>
    have hsame : firstAt? ds (c :: (s ++ rest)) = none :=
      (h (c :: s) (List.suffix_refl _) (List.cons_ne_nil c s)).trans hnone
    obtain ⟨u, us, hus⟩ := List.exists_cons_of_ne_nil (cut_ne_nil ds s)
    rw [List.cons_append, cut_cons_of_firstAt?_eq_none hsame, cut_cons_of_firstAt?_eq_none hnone,
      ih fun v hv ↦ h v (hv.trans (List.suffix_cons c s)), hus]
    rfl

/-! ### Separators -/

/-- Whether a delimiter separates two texts. -/
structure Separates (ds : List String) (p d q : String) : Prop where
  /-- A delimiter that begins inside the first text does not end behind it. -/
  inside : ∀ v, v <:+ p.toList → v ≠ [] → ∀ e ∈ ds, e ≠ "" →
    e.toList <+: v ++ (d.toList ++ q.toList) → e.toList.length ≤ v.length
  /-- Behind the first text, the delimiter is the longest one. -/
  longest : LongestAt ds d (d.toList ++ q.toList)

instance (ds : List String) (p d q : String) : Decidable (Separates ds p d q) :=
  decidable_of_iff
    ((∀ v ∈ p.toList.tails, v ≠ [] → ∀ e ∈ ds, e ≠ "" →
      e.toList <+: v ++ (d.toList ++ q.toList) → e.toList.length ≤ v.length) ∧
      LongestAt ds d (d.toList ++ q.toList))
    ⟨fun ⟨hinside, hlongest⟩ ↦ ⟨fun v hv ↦ hinside v ((List.mem_tails v _).2 hv), hlongest⟩,
      fun h ↦ ⟨fun v hv ↦ h.inside v ((List.mem_tails v _).1 hv), h.longest⟩⟩

/-- Delimiters of one character each separate any two texts. -/
theorem separates_of_forall_length_eq_one {ds : List String} {d : String}
    (hds : ∀ e ∈ ds, e.length = 1) (hd : d ∈ ds) (p q : String) : Separates ds p d q := by
  have hlength : ∀ e ∈ ds, e.toList.length = 1 := fun e he ↦ by
    rw [String.length_toList]
    exact hds e he
  refine ⟨fun v _ hv e he _ _ ↦ ?_, hd, ?_, List.prefix_append _ _, fun e he _ ↦ ?_⟩
  · rw [hlength e he]
    exact List.length_pos_of_ne_nil hv
  · rintro rfl
    exact absurd (hds "" hd) (by decide)
  · rw [hlength e he, hlength d hd]

/-- What a separator stands between is cut on either side of it alone. -/
theorem Separates.pieces_append {ds : List String} {p d q : String} (h : Separates ds p d q) :
    pieces ds (p ++ d ++ q) = pieces ds p ++ pieces ds q := by
  have hrest : cut ((ranked ds).map String.toList) (d.toList ++ q.toList) =
      [] :: cut ((ranked ds).map String.toList) q.toList :=
    cut_append_of_firstAt?_eq_some (by simpa using h.longest.ne_empty)
      (firstAt?_ranked_eq_some_iff.2 h.longest)
  have hcut := cut_append_of_firstAt?_eq hrest fun v hv hne ↦
    firstAt?_append_of_forall (s := v) fun e he hpre ↦ by
      obtain ⟨e, hmem, rfl⟩ := List.mem_map.1 he
      exact h.inside v hv hne e (mem_ranked.1 hmem).1 (mem_ranked.1 hmem).2 hpre
  rw [pieces, String.toList_append, String.toList_append, List.append_assoc, hcut, List.map_append]
  rfl

end Delimiter

end StringCalculator
