import Mathlib.Data.List.DropRight
import StringCalculator.Console

/-!
# Chunks and lines

What the input of a conversation is cut into, said without the functions that cut it. `Chunked`
describes a row of chunks: each ends with the first line feed in it, and only the last chunk may
have none. There is one such row for every input, and cutting finds it (`chunked_iff`).

The line in a chunk is the text of the chunk without the line feeds and returns at its end, which
`IsLine` says in the same way (`dropLineEnds_eq_iff`). Those in front of other characters belong to
the line.
-/

namespace StringCalculator

/-! ### Chunks -/

/-- The rows of chunks that inputs are cut into. -/
inductive Chunked : List UInt8 → List (List UInt8) → Prop
  /-- Nothing is cut into no chunks. -/
  | nil : Chunked [] []
  /-- Behind the last line feed, what is left is a chunk. -/
  | last {chunk : List UInt8} (ne_nil : chunk ≠ []) (no_feed : lineFeed ∉ chunk) :
      Chunked chunk [chunk]
  /-- The first line feed ends the first chunk. -/
  | feed {before input : List UInt8} {cs : List (List UInt8)} (no_feed : lineFeed ∉ before)
      (rest : Chunked input cs) :
      Chunked (before ++ lineFeed :: input) ((before ++ [lineFeed]) :: cs)

theorem chunks_cons_feed (bs : List UInt8) : chunks (lineFeed :: bs) = [lineFeed] :: chunks bs := by
  rw [chunks, if_pos rfl]

/-- Bytes in front of a first line feed end up in the same chunk. -/
theorem chunks_append_feed {before : List UInt8} (h : lineFeed ∉ before) (bs : List UInt8) :
    chunks (before ++ lineFeed :: bs) = (before ++ [lineFeed]) :: chunks bs := by
  induction before with
  | nil => exact chunks_cons_feed bs
  | cons b before ih =>
    rw [List.mem_cons, not_or] at h
    rw [List.cons_append, chunks, if_neg (Ne.symm h.1), ih h.2]
    rfl

/-- Without a line feed, what there is of an input is one chunk. -/
theorem chunks_of_feed_not_mem {chunk : List UInt8} (hne : chunk ≠ []) (h : lineFeed ∉ chunk) :
    chunks chunk = [chunk] := by
  induction chunk with
  | nil => exact absurd rfl hne
  | cons b bs ih =>
    rw [List.mem_cons, not_or] at h
    rw [chunks, if_neg (Ne.symm h.1)]
    by_cases hbs : bs = []
    · subst hbs
      rfl
    · rw [ih hbs h.2]

/-- A row that is cut as it should be is the one that cutting finds. -/
theorem chunks_eq_of_chunked {input : List UInt8} {cs : List (List UInt8)} (h : Chunked input cs) :
    chunks input = cs := by
  induction h with
  | nil => rfl
  | last hne hno => exact chunks_of_feed_not_mem hne hno
  | feed hno _ ih => rw [chunks_append_feed hno, ih]

/-- Every input can be cut into chunks. -/
theorem exists_chunked (input : List UInt8) : ∃ cs, Chunked input cs := by
  induction input with
  | nil => exact ⟨[], .nil⟩
  | cons b bs ih =>
    obtain ⟨cs, hcs⟩ := ih
    by_cases hb : b = lineFeed
    · subst hb
      have hfeed : Chunked ([] ++ lineFeed :: bs) (([] ++ [lineFeed]) :: cs) :=
        .feed List.not_mem_nil hcs
      exact ⟨[lineFeed] :: cs, hfeed⟩
    · -- any other byte joins the first chunk
      have hnot : ∀ {bs}, lineFeed ∉ bs → lineFeed ∉ b :: bs := fun h ↦
        List.not_mem_cons_of_ne_of_not_mem (Ne.symm hb) h
      cases hcs with
      | nil => exact ⟨[[b]], .last (List.cons_ne_nil b []) (hnot List.not_mem_nil)⟩
      | last _ hno => exact ⟨[b :: bs], .last (List.cons_ne_nil b bs) (hnot hno)⟩
      | @feed before _ cs hno hrest =>
        exact ⟨(b :: before ++ [lineFeed]) :: cs, .feed (hnot hno) hrest⟩

/-- **Cutting finds the chunks of an input**, and there is only one row of them. -/
theorem chunked_iff {input : List UInt8} {cs : List (List UInt8)} :
    Chunked input cs ↔ chunks input = cs := by
  refine ⟨chunks_eq_of_chunked, ?_⟩
  rintro rfl
  obtain ⟨cs, hcs⟩ := exists_chunked input
  rwa [chunks_eq_of_chunked hcs]

/-! ### Lines -/

/-- Line ends are line feeds and returns. -/
theorem isLineEnd_iff {c : Char} : isLineEnd c = true ↔ c = '\n' ∨ c = '\r' := by
  simp [isLineEnd]

/-- Whether a line is what is left of a text without the line feeds and returns behind it. -/
structure IsLine (text line : String) : Prop where
  /-- Nothing else is left out. -/
  ends : ∃ ends : String, text = line ++ ends ∧ ∀ c ∈ ends.toList, c = '\n' ∨ c = '\r'
  /-- No line feed is left behind. -/
  last_ne_feed : '\n' ∉ line.toList.getLast?
  /-- No return is left behind. -/
  last_ne_return : '\r' ∉ line.toList.getLast?

theorem IsLine.not_isLineEnd_last {text line : String} (h : IsLine text line) {c : Char}
    (hc : c ∈ line.toList.getLast?) : ¬isLineEnd c = true := by
  rw [isLineEnd_iff]
  rintro (rfl | rfl)
  · exact h.last_ne_feed hc
  · exact h.last_ne_return hc

/-- What is left when line ends are dropped is the line in a text. -/
theorem isLine_dropLineEnds (text : String) : IsLine text (dropLineEnds text) := by
  have hline : dropLineEnds text = String.ofList (text.toList.rdropWhile isLineEnd) := rfl
  have hlast : ∀ c ∈ (dropLineEnds text).toList.getLast?, ¬isLineEnd c = true := by
    intro c hc
    rw [hline, String.toList_ofList] at hc
    obtain ⟨hne, rfl⟩ := List.mem_getLast?_eq_getLast hc
    exact List.rdropWhile_last_not isLineEnd text.toList hne
  refine ⟨⟨String.ofList (text.toList.rtakeWhile isLineEnd), ?_, fun c hc ↦ ?_⟩,
    fun hfeed ↦ hlast _ hfeed (by decide), fun hreturn ↦ hlast _ hreturn (by decide)⟩
  · rw [hline, ← String.ofList_append, List.rdropWhile_append_rtakeWhile, String.ofList_toList]
  · rw [String.toList_ofList] at hc
    exact isLineEnd_iff.1 (List.mem_rtakeWhile_imp hc)

/-- There is no other line in a text. -/
theorem dropLineEnds_eq_of_isLine {text line : String} (h : IsLine text line) :
    dropLineEnds text = line := by
  obtain ⟨ends, rfl, hends⟩ := h.ends
  have hrev : ∀ c ∈ ends.toList.reverse, isLineEnd c = true := fun c hc ↦
    isLineEnd_iff.2 (hends c (List.mem_reverse.1 hc))
  have hkeep : line.toList.reverse.dropWhile isLineEnd = line.toList.reverse := by
    rcases hl : line.toList.reverse with - | ⟨c, r⟩
    · rfl
    · refine List.dropWhile_cons_of_neg (h.not_isLineEnd_last ?_)
      rw [← List.head?_reverse, hl]
      rfl
  rw [dropLineEnds, String.toList_append, List.reverse_append,
    List.dropWhile_append_of_pos hrev, hkeep, List.reverse_reverse, String.ofList_toList]

/-- **Dropping line ends finds the line in a text.** -/
theorem dropLineEnds_eq_iff {text line : String} : dropLineEnds text = line ↔ IsLine text line := by
  refine ⟨?_, dropLineEnds_eq_of_isLine⟩
  rintro rfl
  exact isLine_dropLineEnds text

end StringCalculator
