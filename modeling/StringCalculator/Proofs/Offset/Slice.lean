import StringCalculator.Proofs.Encoding

/-!
# Slices of encoded text

Texts as their bytes, with places in them counted in bytes. A slice is a partial function of two
places: it is defined if they are in order, inside the text, and both on a boundary between
characters. A byte tells by itself whether a character begins with it, so a boundary is recognized
without looking at what is before it.

In the bytes of a text, boundaries are the places behind its beginnings (`isBoundary_utf8_iff`), and
what is between two of them is a text again (`slice?_utf8_eq_some_iff`).
-/

namespace StringCalculator

/-! ### Boundaries -/

/-- Whether a place is a boundary between characters: an end of the text, or where a character
begins. -/
def isBoundary (bs : List UInt8) (i : Nat) : Bool :=
  i == 0 || i == bs.length || bs[i]?.any fun b ↦ decide b.IsUTF8FirstByte

/-- An offset is a boundary at both ends, and where a character begins. -/
theorem isBoundary_iff {bs : List UInt8} {i : Nat} :
    isBoundary bs i = true ↔ i = 0 ∨ i = bs.length ∨ ∃ b, bs[i]? = some b ∧ b.IsUTF8FirstByte := by
  simp [isBoundary, Option.any_eq_true, or_assoc]

/-- The bytes of a character that are not the first one begin nothing. -/
theorem not_isUTF8FirstByte_of_getElem? {c : Char} {i : Nat} {b : UInt8} (hi : i ≠ 0)
    (h : (String.utf8EncodeChar c)[i]? = some b) : ¬b.IsUTF8FirstByte := by
  obtain ⟨hlt, rfl⟩ := List.getElem?_eq_some_iff.1 h
  rwa [UInt8.isUTF8FirstByte_getElem_utf8EncodeChar]

/-- Behind the bytes of a beginning there is a boundary. -/
theorem isBoundary_utf8_append (p s : List Char) :
    isBoundary (utf8 (p ++ s)) (utf8 p).length = true := by
  rw [isBoundary_iff]
  cases s with
  | nil => exact .inr (.inl (by rw [List.append_nil]))
  | cons c s =>
    obtain ⟨b, t, ht⟩ := List.exists_cons_of_ne_nil (String.utf8EncodeChar_ne_nil (c := c))
    have hfirst : b.IsUTF8FirstByte := by
      simpa [ht] using UInt8.isUTF8FirstByte_getElem_zero_utf8EncodeChar (c := c)
    refine .inr (.inr ⟨b, ?_, hfirst⟩)
    simp [utf8_cons, ht]

/-- A boundary behind the first character is one in what is behind it. -/
theorem isBoundary_of_isBoundary_cons {c : Char} {s : List Char} {i : Nat}
    (h : isBoundary (utf8 (c :: s)) ((String.utf8EncodeChar c).length + i) = true) :
    isBoundary (utf8 s) i = true := by
  rw [isBoundary_iff] at h ⊢
  have hpos : 0 < (String.utf8EncodeChar c).length :=
    List.length_pos_iff.2 String.utf8EncodeChar_ne_nil
  rw [utf8_cons, List.length_append, List.getElem?_append_right (Nat.le_add_right _ _),
    Nat.add_sub_cancel_left] at h
  rcases h with h | h | h
  · omega
  · exact .inr (.inl (by omega))
  · exact .inr (.inr h)

/-- Boundaries are behind the beginnings of a text. -/
theorem isBoundary_utf8_iff {s : List Char} {i : Nat} :
    isBoundary (utf8 s) i = true ↔ ∃ p, p <+: s ∧ (utf8 p).length = i := by
  constructor
  · intro h
    induction s generalizing i with
    | nil =>
      obtain rfl : i = 0 := by simpa [isBoundary_iff] using h
      exact ⟨[], List.nil_prefix, rfl⟩
    | cons c s ih =>
      by_cases hi : i = 0
      · exact ⟨[], List.nil_prefix, hi.symm⟩
      by_cases hlt : i < (String.utf8EncodeChar c).length
      · -- a place inside the first character
        rw [isBoundary_iff, utf8_cons, List.length_append, List.getElem?_append_left hlt] at h
        rcases h with h | h | ⟨b, hb, hfirst⟩
        · exact absurd h hi
        · omega
        · exact absurd hfirst (not_isUTF8FirstByte_of_getElem? hi hb)
      · obtain ⟨j, rfl⟩ := Nat.exists_eq_add_of_le (Nat.le_of_not_lt hlt)
        obtain ⟨p, hp, rfl⟩ := ih (isBoundary_of_isBoundary_cons h)
        exact ⟨c :: p, List.cons_prefix_cons.2 ⟨rfl, hp⟩, by rw [utf8_cons, List.length_append]⟩
  · rintro ⟨p, ⟨t, rfl⟩, rfl⟩
    exact isBoundary_utf8_append p t

/-! ### Slices -/

/-- The bytes from one place to another, if both are boundaries. -/
def slice? (bs : List UInt8) (i j : Nat) : Option (List UInt8) :=
  if i ≤ j ∧ isBoundary bs i = true ∧ isBoundary bs j = true then some ((bs.take j).drop i)
  else none

/-- The slice between two parts of a text is the part between them. -/
theorem slice?_utf8 (p q r : List Char) :
    slice? (utf8 (p ++ q ++ r)) (utf8 p).length (utf8 (p ++ q)).length = some (utf8 q) := by
  have hle : (utf8 p).length ≤ (utf8 (p ++ q)).length := by simp
  have hstart : isBoundary (utf8 (p ++ q ++ r)) (utf8 p).length = true := by
    rw [List.append_assoc]
    exact isBoundary_utf8_append p (q ++ r)
  rw [slice?, if_pos ⟨hle, hstart, isBoundary_utf8_append (p ++ q) r⟩, utf8_append (p ++ q),
    List.take_left, utf8_append, List.drop_left]

theorem slice?_utf8_end (p q : List Char) :
    slice? (utf8 (p ++ q)) (utf8 p).length (utf8 (p ++ q)).length = some (utf8 q) := by
  simpa using slice?_utf8 p q []

/-- **A slice of a text is defined between boundaries, and is a text.** -/
theorem slice?_utf8_eq_some_iff {s : List Char} {i j : Nat} {bs : List UInt8} :
    slice? (utf8 s) i j = some bs ↔
      ∃ p q r, s = p ++ q ++ r ∧ i = (utf8 p).length ∧ j = (utf8 (p ++ q)).length ∧
        bs = utf8 q := by
  constructor
  · intro h
    obtain ⟨hle, hstart, hend⟩ :
        i ≤ j ∧ isBoundary (utf8 s) i = true ∧ isBoundary (utf8 s) j = true := by
      by_contra hno
      rw [slice?, if_neg hno] at h
      cases h
    obtain ⟨p, hp, rfl⟩ := isBoundary_utf8_iff.1 hstart
    obtain ⟨p', hp', rfl⟩ := isBoundary_utf8_iff.1 hend
    -- of two beginnings of a text, the one with no more bytes begins the other
    obtain ⟨q, rfl⟩ : p <+: p' := utf8_prefix_utf8_iff.1 (List.prefix_of_prefix_length_le
      (utf8_prefix_utf8_iff.2 hp) (utf8_prefix_utf8_iff.2 hp') hle)
    obtain ⟨r, rfl⟩ := hp'
    rw [slice?_utf8, Option.some.injEq] at h
    exact ⟨p, q, r, rfl, rfl, rfl, h.symm⟩
  · rintro ⟨p, q, r, rfl, rfl, rfl, rfl⟩
    exact slice?_utf8 p q r

/-! ### First characters -/

/-- How many bytes the first character takes up, and one if there is none. -/
def firstWidth (bs : List UInt8) : Nat :=
  ((bs.toByteArray.utf8DecodeChar? 0).map Char.utf8Size).getD 1

/-- The width at a position is that of the character there. -/
theorem firstWidth_utf8_cons (c : Char) (s : List Char) :
    firstWidth (utf8 (c :: s)) = c.utf8Size := by
  rw [firstWidth, utf8_cons, List.toByteArray_append,
    ByteArray.utf8DecodeChar?_utf8EncodeChar_append]
  rfl

end StringCalculator
