import Mathlib.Data.List.Sort
import StringCalculator.Delimiter

/-!
# Ranked delimiters

What bringing a list of delimiters into order of precedence makes of it. `precedes` is a strict
linear order, so a list in that order is determined by its members: `ranked` is a canonical form of
the set of nonempty delimiters, whatever their order and number in the list
(`ranked_eq_ranked_iff`).

The order is measured in bytes, while a text is scanned character by character. Both measures agree
where it matters: of two delimiters that one text begins with, one is a beginning of the other, and
a beginning with no fewer bytes is all of it (`eq_of_prefix_of_length_bytes_le`). So the first match
in the order is the longest one, and `LongestAt` says so without mentioning the order
(`firstAt?_ranked_eq_some_iff`). Everything about cutting rests on that one equivalence.
-/

namespace StringCalculator

namespace Delimiter

/-! ### Bytes -/

/-- The loop that lists the bytes of an array adds what it has not visited to what it has. -/
theorem toList_loop_eq_append (bs : ByteArray) (i : Nat) (seen : List UInt8) :
    ByteArray.toList.loop bs i seen = seen.reverse ++ bs.data.toList.drop i := by
  fun_induction ByteArray.toList.loop bs i seen with
  | case1 i seen h ih =>
    have hi : i < bs.data.toList.length := by simpa using h
    have hget : bs.get! i = bs.data.toList[i] := getElem!_pos bs.data i h
    rw [ih, List.reverse_cons, List.append_assoc, List.singleton_append, hget,
      List.getElem_cons_drop]
  | case2 i seen h =>
    rw [List.drop_eq_nil_of_le (by simpa using h), List.append_nil]

theorem bytes_eq (d : String) : bytes d = d.toByteArray.data.toList := by
  rw [bytes, ByteArray.toList, toList_loop_eq_append]
  rfl

theorem bytes_injective {d e : String} (h : bytes d = bytes e) : d = e := by
  rw [bytes_eq, bytes_eq] at h
  exact String.toByteArray_inj.1 (ByteArray.ext (Array.toList_inj.1 h))

theorem length_bytes (d : String) : (bytes d).length = d.utf8ByteSize := by
  rw [bytes_eq]
  rfl

/-- A beginning of a delimiter with no fewer bytes is all of it. -/
theorem eq_of_prefix_of_length_bytes_le {d e : String} (h : d.toList <+: e.toList)
    (hle : (bytes e).length ≤ (bytes d).length) : d = e := by
  obtain ⟨t, ht⟩ := h
  have heq : e = d ++ String.ofList t := String.toList_injective (by simp [ht])
  rw [length_bytes, length_bytes, heq, String.utf8ByteSize_append] at hle
  have hzero : (String.ofList t).utf8ByteSize = 0 := by omega
  rw [heq, String.utf8ByteSize_eq_zero_iff.1 hzero, String.append_empty]

/-! ### Precedence is a strict linear order -/

/-- More bytes come first, and of as many bytes the smaller ones. -/
theorem precedes_iff {d e : String} :
    precedes d e = true ↔ (bytes e).length < (bytes d).length ∨
      (bytes d).length = (bytes e).length ∧ bytes d < bytes e := by
  simp [precedes]

theorem precedes_irrefl (d : String) : ¬precedes d d = true := by
  rw [precedes_iff]
  rintro (h | ⟨-, h⟩)
  · exact Nat.lt_irrefl _ h
  · exact List.lt_irrefl _ h

theorem precedes_trans {d e f : String} (hde : precedes d e = true) (hef : precedes e f = true) :
    precedes d f = true := by
  rw [precedes_iff] at hde hef ⊢
  rcases hde with hde | ⟨hde, hlt⟩ <;> rcases hef with hef | ⟨hef, hlt'⟩
  · exact Or.inl (hef.trans hde)
  · exact Or.inl (hef ▸ hde)
  · exact Or.inl (hde ▸ hef)
  · exact Or.inr ⟨hde.trans hef, List.lt_trans hlt hlt'⟩

/-- Two delimiters of which neither is tried before the other are equal. -/
theorem precedes_of_ne_of_not_precedes {d e : String} (hne : d ≠ e) (h : ¬precedes d e = true) :
    precedes e d = true := by
  rw [precedes_iff] at h ⊢
  rcases Nat.lt_trichotomy (bytes d).length (bytes e).length with hlt | heq | hgt
  · exact Or.inl hlt
  · refine Or.inr ⟨heq.symm, ?_⟩
    by_contra hge
    exact hne (bytes_injective (List.le_antisymm hge fun hlt ↦ h (Or.inr ⟨heq, hlt⟩)))
  · exact absurd (Or.inl hgt) h

instance : Std.Irrefl (precedes · ·) :=
  ⟨precedes_irrefl⟩

instance : Std.Antisymm (precedes · ·) :=
  ⟨fun _ _ hde hed ↦ absurd (precedes_trans hde hed) (precedes_irrefl _)⟩

/-! ### Ranking -/

@[simp]
theorem mem_insert {d e : String} {es : List String} : d ∈ insert e es ↔ d = e ∨ d ∈ es := by
  induction es with
  | nil => simp [insert]
  | cons f fs ih =>
    rw [insert]
    split
    · next h => simp [h]
    · split
      · simp
      · simp only [List.mem_cons, ih]
        exact or_left_comm

theorem pairwise_insert {e : String} {es : List String} (h : es.Pairwise (precedes · ·)) :
    (insert e es).Pairwise (precedes · ·) := by
  induction es with
  | nil => exact List.pairwise_singleton _ _
  | cons f fs ih =>
    obtain ⟨hf, hfs⟩ := List.pairwise_cons.1 h
    rw [insert]
    split
    · exact h
    · next hne =>
      split
      · next hef =>
        refine List.pairwise_cons.2 ⟨fun d hd ↦ ?_, h⟩
        rcases List.mem_cons.1 hd with rfl | hd
        · exact hef
        · exact precedes_trans hef (hf d hd)
      · next hef =>
        refine List.pairwise_cons.2 ⟨fun d hd ↦ ?_, ih hfs⟩
        rcases mem_insert.1 hd with rfl | hd
        · exact precedes_of_ne_of_not_precedes hne hef
        · exact hf d hd

/-- Exactly the nonempty delimiters are ranked. -/
@[simp]
theorem mem_ranked {d : String} {ds : List String} : d ∈ ranked ds ↔ d ∈ ds ∧ d ≠ "" := by
  have hfold : ∀ es : List String, d ∈ es.foldr insert [] ↔ d ∈ es := by
    intro es
    induction es with
    | nil => rfl
    | cons e es ih => rw [List.foldr_cons, mem_insert, ih, List.mem_cons]
  rw [ranked, hfold, List.mem_filter]
  simp

/-- In a ranked list every delimiter precedes those behind it. -/
theorem pairwise_ranked (ds : List String) : (ranked ds).Pairwise (precedes · ·) := by
  rw [ranked]
  induction ds.filter fun d ↦ !d.isEmpty with
  | nil => exact List.Pairwise.nil
  | cons e es ih => exact pairwise_insert ih

/-- Whether two lists hold the same nonempty delimiters, wherever and however often. -/
def SameDelimiters (ds es : List String) : Prop :=
  ∀ d, d ≠ "" → (d ∈ ds ↔ d ∈ es)

/-- Lists are ranked alike exactly if they have the same nonempty delimiters. -/
theorem ranked_eq_ranked_iff {ds es : List String} :
    ranked ds = ranked es ↔ SameDelimiters ds es := by
  constructor
  · intro h d hd
    have hmem : d ∈ ranked ds ↔ d ∈ ranked es := by rw [h]
    simpa [hd] using hmem
  · intro h
    refine (pairwise_ranked ds).eq_of_mem_iff (pairwise_ranked es) fun d ↦ ?_
    simp only [mem_ranked]
    exact and_congr_left fun hd ↦ h d hd

theorem SameDelimiters.append {ds ds' es es' : List String} (h : SameDelimiters ds ds')
    (h' : SameDelimiters es es') : SameDelimiters (ds ++ es) (ds' ++ es') := by
  intro d hd
  rw [List.mem_append, List.mem_append, h d hd, h' d hd]

theorem sameDelimiters_filter_not_isEmpty (ds : List String) :
    SameDelimiters (ds.filter fun d ↦ !d.isEmpty) ds := by
  intro d hd
  simp [hd]

/-- Cutting does not tell apart lists of the same delimiters. -/
theorem pieces_congr {ds es : List String} (h : SameDelimiters ds es) (text : String) :
    pieces ds text = pieces es text := by
  rw [pieces, pieces, ranked_eq_ranked_iff.2 h]

/-! ### The first match is the longest -/

theorem firstAt?_eq_none_iff {ds : List (List Char)} {s : List Char} :
    firstAt? ds s = none ↔ ∀ d ∈ ds, ¬d <+: s := by
  simp [firstAt?]

/-- The longest delimiter of a list that a text begins with. -/
structure LongestAt (ds : List String) (d : String) (s : List Char) : Prop where
  /-- It is in the list. -/
  mem : d ∈ ds
  /-- It is not empty. -/
  ne_empty : d ≠ ""
  /-- The text begins with it. -/
  starts : d.toList <+: s
  /-- No other delimiter that the text begins with is longer. -/
  longest : ∀ e ∈ ds, e.toList <+: s → e.toList.length ≤ d.toList.length

theorem LongestAt.unique {ds : List String} {d e : String} {s : List Char}
    (hd : LongestAt ds d s) (he : LongestAt ds e s) : d = e := by
  have hle := hd.longest e he.mem he.starts
  have hge := he.longest d hd.mem hd.starts
  exact String.toList_injective
    ((List.prefix_of_prefix_length_le hd.starts he.starts hge).eq_of_length (by omega))

/-- In a list in order of precedence, what is found first precedes all else that could be found. -/
theorem eq_or_precedes_of_find?_eq_some {p : String → Bool} {d e : String} {ds : List String}
    (hds : ds.Pairwise (precedes · ·)) (h : ds.find? p = some d) (he : e ∈ ds) (hp : p e = true) :
    e = d ∨ precedes d e = true := by
  obtain ⟨-, before, after, rfl, hbefore⟩ := List.find?_eq_some_iff_append.1 h
  rcases List.mem_append.1 he with he | he
  · have hn := hbefore e he
    rw [hp] at hn
    exact absurd hn (by decide)
  · rcases List.mem_cons.1 he with rfl | he
    · exact Or.inl rfl
    · exact Or.inr ((List.pairwise_cons.1 (List.pairwise_append.1 hds).2.1).1 e he)

/-- The first ranked delimiter that a text begins with is the longest. -/
theorem longestAt_of_firstAt?_ranked {ds : List String} {d : String} {s : List Char}
    (h : firstAt? ((ranked ds).map String.toList) s = some d.toList) : LongestAt ds d s := by
  rw [firstAt?, List.find?_map, Option.map_eq_some_iff] at h
  obtain ⟨d', h, hd'⟩ := h
  rcases String.toList_injective hd' with rfl
  have hmem := mem_ranked.1 (List.mem_of_find?_eq_some h)
  have hstarts : d'.toList <+: s := by simpa using List.find?_some h
  refine ⟨hmem.1, hmem.2, hstarts, fun e he hpre ↦ ?_⟩
  by_cases hne : e = ""
  · simp [hne]
  -- whatever else could be found is no longer in bytes, and of two beginnings of one text
  -- the one with no fewer bytes has no fewer characters
  have hbytes : (bytes e).length ≤ (bytes d').length := by
    rcases eq_or_precedes_of_find?_eq_some (pairwise_ranked ds) h (mem_ranked.2 ⟨he, hne⟩)
      (by simpa using hpre) with rfl | hlt
    · exact Nat.le_refl _
    · rcases precedes_iff.1 hlt with hlt | ⟨heq, -⟩ <;> omega
  rcases List.prefix_or_prefix_of_prefix hpre hstarts with hle | hge
  · exact hle.length_le
  · rw [eq_of_prefix_of_length_bytes_le hge hbytes]

/-- In order of precedence, the first delimiter that a text begins with is the longest one. -/
theorem firstAt?_ranked_eq_some_iff {ds : List String} {d : String} {s : List Char} :
    firstAt? ((ranked ds).map String.toList) s = some d.toList ↔ LongestAt ds d s := by
  refine ⟨longestAt_of_firstAt?_ranked, fun h ↦ ?_⟩
  have hd : d ∈ ranked ds := mem_ranked.2 ⟨h.mem, h.ne_empty⟩
  rcases hf : firstAt? ((ranked ds).map String.toList) s with - | x
  · exact absurd h.starts (firstAt?_eq_none_iff.1 hf _ (List.mem_map_of_mem hd))
  · obtain ⟨e, -, rfl⟩ := List.mem_map.1 (List.mem_of_find?_eq_some hf)
    rw [h.unique (longestAt_of_firstAt?_ranked hf)]

/-- No ranked delimiter is found where a text begins with no nonempty one. -/
theorem firstAt?_ranked_eq_none_iff {ds : List String} {s : List Char} :
    firstAt? ((ranked ds).map String.toList) s = none ↔ ∀ d ∈ ds, d ≠ "" → ¬d.toList <+: s := by
  simp only [firstAt?_eq_none_iff, List.forall_mem_map, mem_ranked, and_imp, ne_eq]

end Delimiter

end StringCalculator
