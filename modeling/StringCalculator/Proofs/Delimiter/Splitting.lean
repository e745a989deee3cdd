import StringCalculator.Proofs.Delimiter.Ranking

/-!
# Splittings

What cutting a text does, said without the scan. `Splits` describes a text as pieces with separators
between them: no delimiter begins inside a piece, and each separator is the longest delimiter at the
place where it stands. Cutting such a text gives its pieces (`pieces_woven`), so a statement about
cutting is proved by writing the text down as a splitting.

Two kinds of text can be seen to be splittings from their parts alone: words that share no
character with any delimiter, under whichever delimiters between them (`splits_of_disjoint`), and
pieces without the first character of the one delimiter they are joined with
(`pieces_singleton_intercalate`). The latter pieces may hold its other characters.
-/

namespace StringCalculator

namespace Delimiter

/-! ### Steps of the scan -/

theorem cut_nil (ds : List (List Char)) : cut ds [] = [[]] := by
  rw [cut]

/-- A character where no delimiter begins belongs to the first piece of what follows. -/
theorem cut_cons_of_firstAt?_eq_none {ds : List (List Char)} {c : Char} {r : List Char}
    (h : firstAt? ds (c :: r) = none) : cut ds (c :: r) = (cut ds r).modifyHead (c :: ·) := by
  rw [cut, h]

/-- A delimiter that is found ends a piece, and the scan goes on right behind it. -/
theorem cut_append_of_firstAt?_eq_some {ds : List (List Char)} {d r : List Char} (hd : d ≠ [])
    (h : firstAt? ds (d ++ r) = some d) : cut ds (d ++ r) = [] :: cut ds r := by
  obtain ⟨c, t, rfl⟩ := List.exists_cons_of_ne_nil hd
  rw [List.cons_append] at h ⊢
  rw [cut, h]
  simp

/-- Characters at which no delimiter begins go into the next piece. -/
theorem cut_append_of_firstAt?_eq_none {ds : List (List Char)} {t r : List Char}
    (h : ∀ v, v <:+ t → v ≠ [] → firstAt? ds (v ++ r) = none) :
    cut ds (t ++ r) = (cut ds r).modifyHead (t ++ ·) := by
  induction t with
  | nil => exact (congrFun List.modifyHead_id _).symm
  | cons c t ih =>
    have hc : firstAt? ds (c :: (t ++ r)) = none :=
      h (c :: t) (List.suffix_refl _) (List.cons_ne_nil _ _)
    rw [List.cons_append, cut_cons_of_firstAt?_eq_none hc,
      ih fun v hv ↦ h v (hv.trans (List.suffix_cons c t)), List.modifyHead_modifyHead]
    rfl

/-! ### Leftmost-longest splittings -/

/-- The text with a first piece and further pieces, each behind its separator. -/
def woven (first : String) : List (String × String) → String
  | [] => first
  | (separator, piece) :: rest => first ++ separator ++ woven piece rest

theorem toList_woven_cons (t s w : String) (ps : List (String × String)) :
    (woven t ((s, w) :: ps)).toList = t.toList ++ (s.toList ++ (woven w ps).toList) := by
  simp [woven]

theorem prefix_toList_woven (t : String) (ps : List (String × String)) :
    t.toList <+: (woven t ps).toList := by
  cases ps with
  | nil => exact List.prefix_refl _
  | cons p ps =>
    rw [toList_woven_cons]
    exact List.prefix_append _ _

/-- Whether no delimiter begins at a character of a piece, with `rest` behind the piece. -/
def Undelimited (ds : List String) (piece rest : List Char) : Prop :=
  ∀ v, v <:+ piece → v ≠ [] → ∀ d ∈ ds, d ≠ "" → ¬d.toList <+: v ++ rest

/-- The pieces and separators of a leftmost-longest splitting: no delimiter begins inside a piece,
and each separator is the longest delimiter at the place where it stands. -/
inductive Splits (ds : List String) : String → List (String × String) → Prop
  | last {t : String} (free : Undelimited ds t.toList []) : Splits ds t []
  | cons {t s w : String} {ps : List (String × String)}
      (free : Undelimited ds t.toList (s.toList ++ (woven w ps).toList))
      (longest : LongestAt ds s (s.toList ++ (woven w ps).toList)) (rest : Splits ds w ps) :
      Splits ds t ((s, w) :: ps)

/-- The pieces of a text are those of its leftmost-longest splitting. -/
theorem pieces_woven {ds : List String} {t : String} {ps : List (String × String)}
    (h : Splits ds t ps) : pieces ds (woven t ps) = t :: ps.map Prod.snd := by
  have hcut : cut ((ranked ds).map String.toList) (woven t ps).toList =
      (t :: ps.map Prod.snd).map String.toList := by
    induction h with
    | @last t free =>
      have hnone := cut_append_of_firstAt?_eq_none fun v hv hne ↦
        firstAt?_ranked_eq_none_iff.2 (free v hv hne)
      rw [List.append_nil, cut_nil] at hnone
      simpa [woven] using hnone
    | @cons t s w ps free longest _ ih =>
      -- the scan passes over the piece, stops at the separator, and goes on behind it
      rw [toList_woven_cons, cut_append_of_firstAt?_eq_none fun v hv hne ↦
        firstAt?_ranked_eq_none_iff.2 (free v hv hne),
        cut_append_of_firstAt?_eq_some (by simpa using longest.ne_empty)
          (firstAt?_ranked_eq_some_iff.2 longest), ih]
      simp
  rw [pieces, hcut, List.map_map]
  simp [Function.comp_def]

/-! ### Splittings that can be read off their parts -/

/-- No delimiter begins inside a piece that holds no first character of a delimiter. -/
theorem undelimited_of_head_not_mem {ds : List String} {piece : List Char}
    (h : ∀ d ∈ ds, ∀ c ∈ d.toList.head?, c ∉ piece) (rest : List Char) :
    Undelimited ds piece rest := by
  intro v hv hne d hd hd' hpre
  obtain ⟨c, v, rfl⟩ := List.exists_cons_of_ne_nil hne
  obtain ⟨a, u, hau⟩ := List.exists_cons_of_ne_nil (show d.toList ≠ [] by simpa using hd')
  rw [hau, List.cons_append, List.cons_prefix_cons] at hpre
  exact h d hd a (by simp [hau]) (hpre.1 ▸ hv.subset List.mem_cons_self)

/-- A delimiter in front of a character that no delimiter holds is the longest at its place. -/
theorem longestAt_of_not_mem {ds : List String} {s : String} {c : Char} {r : List Char}
    (hs : s ∈ ds) (hne : s ≠ "") (hc : ∀ d ∈ ds, c ∉ d.toList) :
    LongestAt ds s (s.toList ++ c :: r) := by
  refine ⟨hs, hne, List.prefix_append _ _, fun e he hpre ↦ ?_⟩
  by_contra hlt
  -- a longer one would run over the character
  obtain ⟨u, hu⟩ := List.prefix_of_prefix_length_le (List.prefix_append s.toList (c :: r)) hpre
    (by omega)
  have hune : u ≠ [] := by
    rintro rfl
    rw [List.append_nil] at hu
    exact hlt (by rw [hu])
  obtain ⟨a, u, rfl⟩ := List.exists_cons_of_ne_nil hune
  rw [← hu, List.prefix_append_right_inj, List.cons_prefix_cons] at hpre
  exact hc e he (by simp [← hu, hpre.1])

/-- Nonempty words that share no character with a delimiter can be told apart, whichever delimiters
stand between them. -/
theorem splits_of_disjoint {ds : List String} {t : String} {ps : List (String × String)}
    (hwords : ∀ w ∈ t :: ps.map Prod.snd, w ≠ "" ∧ ∀ d ∈ ds, ∀ c ∈ d.toList, c ∉ w.toList)
    (hseps : ∀ s ∈ ps.map Prod.fst, s ∈ ds ∧ s ≠ "") : Splits ds t ps := by
  induction ps generalizing t with
  | nil =>
    exact .last (undelimited_of_head_not_mem
      (fun d hd c hc ↦ (hwords t List.mem_cons_self).2 d hd c (List.mem_of_mem_head? hc)) [])
  | cons p ps ih =>
    obtain ⟨s, w⟩ := p
    refine .cons (undelimited_of_head_not_mem
      (fun d hd c hc ↦ (hwords t List.mem_cons_self).2 d hd c (List.mem_of_mem_head? hc)) _) ?_
      (ih (fun v hv ↦ hwords v (List.mem_cons_of_mem _ hv))
        fun v hv ↦ hseps v (List.mem_cons_of_mem _ hv))
    obtain ⟨hw, hdisjoint⟩ := hwords w (by simp)
    obtain ⟨hs, hne⟩ := hseps s (by simp)
    obtain ⟨c, r, hcr⟩ := List.exists_cons_of_ne_nil (show w.toList ≠ [] by simpa using hw)
    obtain ⟨r', hr'⟩ := prefix_toList_woven w ps
    rw [← hr', hcr, List.cons_append]
    exact longestAt_of_not_mem hs hne fun d hd hc ↦ hdisjoint d hd c hc (by simp [hcr])

/-- To join texts is to weave them with one separator. -/
theorem intercalate_cons_eq_woven (s t : String) (ts : List String) :
    s.intercalate (t :: ts) = woven t (ts.map (s, ·)) := by
  induction ts generalizing t with
  | nil => simp [woven]
  | cons u us ih => rw [String.intercalate_cons_cons, ih, List.map_cons, woven]

/-- Joining with a delimiter is undone by cutting at it alone, if no piece holds the first character
of the delimiter. -/
theorem pieces_singleton_intercalate {s : String} {ts : List String} (hs : s ≠ "")
    (hts : ts ≠ []) (h : ∀ t ∈ ts, ∀ c ∈ s.toList.head?, c ∉ t.toList) :
    pieces [s] (s.intercalate ts) = ts := by
  obtain ⟨t, ts, rfl⟩ := List.exists_cons_of_ne_nil hts
  have hfree : ∀ u ∈ t :: ts, ∀ r, Undelimited [s] u.toList r := fun u hu ↦
    undelimited_of_head_not_mem (by simpa using h u hu)
  have hlongest : ∀ r, LongestAt [s] s (s.toList ++ r) := fun r ↦
    ⟨by simp, hs, List.prefix_append _ _, by simp⟩
  have hsplits : Splits [s] t (ts.map (s, ·)) := by
    clear h hts
    induction ts generalizing t with
    | nil => exact .last (hfree t (by simp) [])
    | cons u us ih =>
      exact .cons (hfree t (by simp) _) (hlongest _)
        (ih u fun v hv ↦ hfree v (List.mem_cons_of_mem _ hv))
  rw [intercalate_cons_eq_woven, pieces_woven hsplits]
  simp [Function.comp_def]

/-! ### How many pieces, and of what -/

theorem mem_of_mem_cut {ds : List (List Char)} {s t : List Char} {c : Char} (ht : t ∈ cut ds s)
    (hc : c ∈ t) : c ∈ s := by
  induction s using cut.induct ds generalizing t with
  | case1 =>
    rw [cut_nil, List.mem_singleton] at ht
    exact ht ▸ hc
  | case2 a r d hd ih =>
    rw [cut, hd] at ht
    rcases List.mem_cons.1 ht with rfl | ht
    · exact absurd hc List.not_mem_nil
    · exact List.mem_cons_of_mem _ (List.mem_of_mem_drop (ih ht hc))
  | case3 a r hnone ih =>
    obtain ⟨u, us, hus⟩ := List.exists_cons_of_ne_nil (cut_ne_nil ds r)
    rw [cut_cons_of_firstAt?_eq_none hnone, hus, List.modifyHead_cons] at ht
    rcases List.mem_cons.1 ht with rfl | ht
    · rcases List.mem_cons.1 hc with rfl | hc
      · exact List.mem_cons_self
      · exact List.mem_cons_of_mem _ (ih (by simp [hus]) hc)
    · exact List.mem_cons_of_mem _ (ih (by simp [hus, ht]) hc)

/-- Pieces hold no other characters than the text. -/
theorem mem_of_mem_pieces {ds : List String} {text t : String} {c : Char}
    (ht : t ∈ pieces ds text) (hc : c ∈ t.toList) : c ∈ text.toList := by
  obtain ⟨u, hu, rfl⟩ := List.mem_map.1 ht
  exact mem_of_mem_cut hu (by simpa using hc)

/-- A text comes to more than one piece exactly if a delimiter occurs in it. -/
theorem one_lt_length_cut_iff {ds : List (List Char)} (hds : [] ∉ ds) {s : List Char} :
    1 < (cut ds s).length ↔ ∃ d ∈ ds, d <:+: s := by
  induction s using cut.induct ds with
  | case1 =>
    rw [cut_nil]
    refine ⟨fun h ↦ absurd h (Nat.lt_irrefl _), ?_⟩
    rintro ⟨d, hd, hin⟩
    exact absurd (List.infix_nil.1 hin ▸ hd) hds
  | case2 a r d hd ih =>
    rw [cut, hd]
    have hrest := List.length_pos_of_ne_nil (cut_ne_nil ds (r.drop (d.length - 1)))
    refine ⟨fun _ ↦ ⟨d, List.mem_of_find?_eq_some hd, ?_⟩, fun _ ↦ by simpa using hrest⟩
    have hpre : d <+: a :: r := by simpa using List.find?_some hd
    exact hpre.isInfix
  | case3 a r hnone ih =>
    rw [cut_cons_of_firstAt?_eq_none hnone, List.length_modifyHead, ih]
    refine exists_congr fun d ↦ and_congr_right fun hd ↦ ?_
    -- nothing begins here, so what occurs in the text occurs in the rest of it
    rw [List.infix_cons_iff, or_iff_right (firstAt?_eq_none_iff.1 hnone d hd)]

/-- There is more than one piece exactly where a delimiter occurs. -/
theorem one_lt_length_pieces_iff {ds : List String} {text : String} :
    1 < (pieces ds text).length ↔ ∃ d ∈ ds, d ≠ "" ∧ d.toList <:+: text.toList := by
  rw [pieces, List.length_map, one_lt_length_cut_iff (by simp)]
  constructor
  · rintro ⟨_, hmem, hin⟩
    obtain ⟨d, hd, rfl⟩ := List.mem_map.1 hmem
    exact ⟨d, (mem_ranked.1 hd).1, (mem_ranked.1 hd).2, hin⟩
  · rintro ⟨d, hd, hne, hin⟩
    exact ⟨d.toList, List.mem_map_of_mem (mem_ranked.2 ⟨hd, hne⟩), hin⟩

end Delimiter

end StringCalculator
