import Mathlib.Data.List.Destutter
import StringCalculator.Proofs.Delimiter.Ranking

/-!
# The canonical order of delimiters

What makes the ranked list of delimiters the only list of its kind. `Ranks` says what a ranked list
is to look like without making one: its members, the longer ones first, and those of one length in
the order of their bytes, which leaves no room for one of them twice. There is one such list for any
delimiters and no other (`ranks_iff`), so two lists are ranked alike exactly if they have the same
nonempty members (`ranked_canonical`).

The list is made by insertion. Sorting first and taking equal neighbours together afterwards makes
the same one, whichever way it is sorted (`destutter_eq_ranked`). This rests on `precedes` leaving
no two delimiters undecided: in a list that is sorted by it, equal delimiters are neighbours, so
that no repetition is left. An order by length alone would let another delimiter come between two
equal ones.
-/

namespace StringCalculator

namespace Delimiter

/-! ### One list of its kind -/

/-- The lists that rank given delimiters. -/
structure Ranks (ds rs : List String) : Prop where
  /-- They hold the nonempty delimiters and nothing else. -/
  mem_iff : ∀ d, d ∈ rs ↔ d ∈ ds ∧ d ≠ ""
  /-- No delimiter has more bytes than one before it. -/
  longest_first : rs.Pairwise fun d e ↦ e.utf8ByteSize ≤ d.utf8ByteSize
  /-- Of two delimiters of one length, the one with the smaller bytes comes first. -/
  smallest_first : rs.Pairwise fun d e ↦ d.utf8ByteSize = e.utf8ByteSize → bytes d < bytes e

variable {ds es rs : List String}

/-- Ranking delimiters makes a list of this kind. -/
theorem ranks_ranked (ds : List String) : Ranks ds (ranked ds) := by
  have hpairwise := pairwise_ranked ds
  refine ⟨fun d ↦ mem_ranked, hpairwise.imp fun {d e} hde ↦ ?_,
    hpairwise.imp fun {d e} hde ↦ ?_⟩
  · rw [precedes_iff, length_bytes, length_bytes] at hde
    omega
  · rw [precedes_iff, length_bytes, length_bytes] at hde
    rcases hde with hlt | ⟨-, hlt⟩
    · omega
    · exact fun _ ↦ hlt

/-- In a list of this kind every delimiter precedes those behind it. -/
theorem Ranks.pairwise (h : Ranks ds rs) : rs.Pairwise (precedes · ·) := by
  refine (h.longest_first.and h.smallest_first).imp fun {d e} hde ↦ ?_
  obtain ⟨hle, hsmaller⟩ := hde
  rw [precedes_iff, length_bytes, length_bytes]
  rcases Nat.lt_or_eq_of_le hle with hlt | heq
  · exact Or.inl hlt
  · exact Or.inr ⟨heq.symm, hsmaller heq.symm⟩

/-- **Delimiters are ranked in one way only.** -/
theorem ranks_iff : Ranks ds rs ↔ rs = ranked ds := by
  constructor
  · intro h
    refine h.pairwise.eq_of_mem_iff (pairwise_ranked ds) fun d ↦ ?_
    rw [h.mem_iff, mem_ranked]
  · rintro rfl
    exact ranks_ranked ds

/-! ### Sorting and taking neighbours together -/

/-- To be tried no later than another delimiter is transitive. -/
theorem not_precedes_trans {d e f : String} (hed : ¬precedes e d = true)
    (hfe : ¬precedes f e = true) : ¬precedes f d = true := by
  intro hfd
  by_cases hne : e = d
  · exact hfe (hne ▸ hfd)
  · exact hfe (precedes_trans hfd (precedes_of_ne_of_not_precedes hne hed))

instance : Std.Antisymm fun d e : String ↦ ¬precedes e d = true :=
  ⟨fun d e hed hde ↦ by
    by_contra hne
    exact hed (precedes_of_ne_of_not_precedes hne hde)⟩

/-- In a sorted list equal delimiters are neighbours, so none is left twice when neighbours that are
equal are taken together. -/
theorem destutter_eq_ranked (hmem : ∀ d, d ∈ rs ↔ d ∈ ds ∧ d ≠ "")
    (hsorted : rs.Pairwise fun d e ↦ ¬precedes e d = true) :
    rs.destutter (· ≠ ·) = ranked ds := by
  rw [hsorted.destutter_eq_dedup]
  have hpairwise : rs.dedup.Pairwise (precedes · ·) := by
    refine ((hsorted.sublist (List.dedup_sublist rs)).and (List.nodup_dedup rs)).imp ?_
    rintro d e ⟨hde, hne⟩
    exact precedes_of_ne_of_not_precedes (Ne.symm hne) hde
  refine hpairwise.eq_of_mem_iff (pairwise_ranked ds) fun d ↦ ?_
  rw [List.mem_dedup, hmem, mem_ranked]

/-- The nonempty delimiters, sorted by precedence, with equal neighbours taken together. -/
def sortedDistinct (ds : List String) : List String :=
  ((ds.filter fun d ↦ !d.isEmpty).mergeSort fun d e ↦ !precedes e d).destutter (· ≠ ·)

/-- Sorting makes the ranked list too. -/
theorem sortedDistinct_eq_ranked (ds : List String) : sortedDistinct ds = ranked ds := by
  have htrans : ∀ d e f, (!precedes e d) = true → (!precedes f e) = true →
      (!precedes f d) = true := by
    intro d e f hed hfe
    simp only [Bool.not_eq_true', Bool.eq_false_iff] at hed hfe ⊢
    exact not_precedes_trans hed hfe
  have htotal : ∀ d e, ((!precedes e d) || !precedes d e) = true := by
    intro d e
    simp only [Bool.or_eq_true, Bool.not_eq_true', Bool.eq_false_iff]
    by_contra! hboth
    exact precedes_irrefl d (precedes_trans hboth.2 hboth.1)
  refine destutter_eq_ranked (fun d ↦ by simp) ?_
  simpa using List.pairwise_mergeSort htrans htotal (ds.filter fun d ↦ !d.isEmpty)

/-! ### The longest match -/

/-- Of the delimiters that a text begins with, the longest one is longer than every other. -/
theorem LongestAt.lt_of_ne {d e : String} {s : List Char} (h : LongestAt ds d s) (he : e ∈ ds)
    (hstarts : e.toList <+: s) (hne : e ≠ d) : e.utf8ByteSize < d.utf8ByteSize := by
  have hprefix : e.toList <+: d.toList :=
    List.prefix_of_prefix_length_le hstarts h.starts (h.longest e he hstarts)
  by_contra hge
  refine hne (eq_of_prefix_of_length_bytes_le hprefix ?_)
  rw [length_bytes, length_bytes]
  omega

/-- A ranked delimiter is found where a text begins with any of the nonempty ones. -/
theorem exists_firstAt?_ranked_iff {s : List Char} :
    (∃ d : String, firstAt? ((ranked ds).map String.toList) s = some d.toList) ↔
      ∃ d ∈ ds, d ≠ "" ∧ d.toList <+: s := by
  constructor
  · rintro ⟨d, hd⟩
    have hlongest := firstAt?_ranked_eq_some_iff.1 hd
    exact ⟨d, hlongest.mem, hlongest.ne_empty, hlongest.starts⟩
  · rintro ⟨d, hd, hne, hstarts⟩
    rcases hf : firstAt? ((ranked ds).map String.toList) s with - | x
    · exact absurd hstarts (firstAt?_ranked_eq_none_iff.1 hf d hd hne)
    · obtain ⟨e, -, rfl⟩ := List.mem_map.1 (List.mem_of_find?_eq_some hf)
      exact ⟨e, rfl⟩

/-- **The ranked list is a canonical form of the delimiters.** It is the one list that holds the
nonempty delimiters, each once, the longer ones in front of the shorter and those of one length in
the order of their bytes, and sorting makes it too. Two lists are ranked alike exactly if they have
the same nonempty delimiters. Where a text begins with one of them, the first that it begins with in
this order is the longest, and longer than every other. -/
theorem ranked_canonical (ds : List String) :
    (∀ rs, Ranks ds rs ↔ rs = ranked ds) ∧ (ranked ds).Nodup ∧ sortedDistinct ds = ranked ds ∧
      (∀ es, ranked ds = ranked es ↔ SameDelimiters ds es) ∧
      ∀ s : List Char,
        (∀ d : String, firstAt? ((ranked ds).map String.toList) s = some d.toList ↔
          LongestAt ds d s) ∧
        (∀ d e, LongestAt ds d s → e ∈ ds → e.toList <+: s → e ≠ d →
          e.utf8ByteSize < d.utf8ByteSize) ∧
        ((∃ d : String, firstAt? ((ranked ds).map String.toList) s = some d.toList) ↔
          ∃ d ∈ ds, d ≠ "" ∧ d.toList <+: s) := by
  refine ⟨fun rs ↦ ranks_iff, (pairwise_ranked ds).nodup, sortedDistinct_eq_ranked ds,
    fun es ↦ ranked_eq_ranked_iff, fun s ↦ ⟨fun d ↦ firstAt?_ranked_eq_some_iff,
      fun d e hd he hstarts hne ↦ ?_, exists_firstAt?_ranked_iff⟩⟩
  exact hd.lt_of_ne he hstarts hne

/-- The same delimiter on both sides of others of its length, with an empty one and one that has two
bytes and a single character. -/
theorem ranked_canonical_interleaved :
    Ranks [";", "é", "", "*", ";", "**"] ["**", "é", "*", ";"] ∧
      sortedDistinct [";", "é", "", "*", ";", "**"] = ["**", "é", "*", ";"] ∧
      ranked [";", "é", "", "*", ";", "**"] = ranked ["é", "**", "*", ";"] ∧
      LongestAt [";", "é", "", "*", ";", "**"] "**" "***;".toList ∧
      "*".utf8ByteSize < "**".utf8ByteSize := by
  have hranked : ranked [";", "é", "", "*", ";", "**"] = ["**", "é", "*", ";"] := by
    decide +kernel
  obtain ⟨hranks, -, hsorted, hsame, hfirst⟩ := ranked_canonical [";", "é", "", "*", ";", "**"]
  obtain ⟨hlongest, hlonger, -⟩ := hfirst "***;".toList
  have hstars : LongestAt [";", "é", "", "*", ";", "**"] "**" "***;".toList :=
    (hlongest "**").1 (by rw [hranked]; decide)
  refine ⟨(hranks _).2 hranked.symm, hsorted.trans hranked, (hsame _).2 fun d hd ↦ ?_, hstars,
    hlonger _ _ hstars (by decide) (by decide) (by decide)⟩
  simp only [List.mem_cons, List.not_mem_nil, hd, false_or, or_false]
  tauto

end Delimiter

end StringCalculator
