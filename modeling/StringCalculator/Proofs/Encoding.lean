import StringCalculator.Files
import StringCalculator.Proofs.Delimiter.Ranking

/-!
# Encoded text

Text in UTF-8, as far as bytes are looked at one by one. A character is a run of one to four bytes,
and the runs cannot be mistaken for each other: the first byte says how many follow
(`eq_of_utf8EncodeChar_append_eq`). Two facts follow, and nothing else about the encoding is used
anywhere:

* bytes begin with those of a text exactly where the characters begin with that text
  (`utf8_prefix_utf8_iff`);
* a character of one byte is found among the bytes exactly where it is found among the characters
  (`mem_utf8_iff`).
-/

namespace StringCalculator

/-- The bytes of characters in UTF-8. -/
def utf8 (s : List Char) : List UInt8 :=
  s.flatMap String.utf8EncodeChar

@[simp]
theorem utf8_nil : utf8 [] = [] :=
  rfl

theorem utf8_cons (c : Char) (s : List Char) : utf8 (c :: s) = String.utf8EncodeChar c ++ utf8 s :=
  rfl

@[simp]
theorem utf8_append (s t : List Char) : utf8 (s ++ t) = utf8 s ++ utf8 t :=
  List.flatMap_append

theorem utf8_ne_nil {s : List Char} (h : s ≠ []) : utf8 s ≠ [] := by
  obtain ⟨c, r, rfl⟩ := List.exists_cons_of_ne_nil h
  rw [utf8_cons]
  exact List.append_ne_nil_of_left_ne_nil String.utf8EncodeChar_ne_nil _

@[simp]
theorem isEmpty_utf8 (s : List Char) : (utf8 s).isEmpty = s.isEmpty := by
  cases s with
  | nil => rfl
  | cons c r => simpa using utf8_ne_nil (List.cons_ne_nil c r)

/-- The bytes of a delimiter are the encoding of its characters. -/
theorem Delimiter.bytes_eq_utf8 (d : String) : bytes d = utf8 d.toList := by
  rw [bytes_eq, ← String.utf8Encode_toList, List.utf8Encode, List.toList_data_toByteArray]
  rfl

theorem Delimiter.bytes_ofList (s : List Char) : bytes (String.ofList s) = utf8 s := by
  rw [bytes_eq_utf8, String.toList_ofList]

/-! ### Decoding -/

/-- The bytes of a text are read as this text. -/
@[simp]
theorem decode?_bytes (s : String) : decode? (Delimiter.bytes s) = some s := by
  have hbytes : (Delimiter.bytes s).toByteArray = s.toByteArray := by
    rw [Delimiter.bytes_eq]
    exact ByteArray.ext (by simp)
  rw [decode?, hbytes, String.fromUTF8?, dif_pos s.isValidUTF8]
  rfl

theorem decode?_utf8 (s : List Char) : decode? (utf8 s) = some (String.ofList s) := by
  rw [← Delimiter.bytes_ofList, decode?_bytes]

/-- What can be decoded are the bytes of texts. -/
theorem decode?_eq_some_iff {bs : List UInt8} {s : String} :
    decode? bs = some s ↔ bs = Delimiter.bytes s := by
  constructor
  · intro h
    rw [decode?, String.fromUTF8?] at h
    split at h
    · cases h
      simp [Delimiter.bytes_eq, String.fromUTF8]
    · cases h
  · rintro rfl
    exact decode?_bytes s

/-! ### Characters among bytes -/

/-- The first character can be told from the bytes, whatever stands behind it. -/
theorem eq_of_utf8EncodeChar_append_eq {c d : Char} {x y : List UInt8}
    (h : String.utf8EncodeChar c ++ x = String.utf8EncodeChar d ++ y) : c = d := by
  have hdecode := congrArg (fun bs : List UInt8 ↦ bs.toByteArray.utf8DecodeChar? 0) h
  simpa [List.toByteArray_append, ByteArray.utf8DecodeChar?_utf8EncodeChar_append] using hdecode

/-- If the bytes of a text begin with those of another, so does the text: no character's bytes are
the beginning of another's. -/
theorem prefix_of_utf8_prefix_utf8 {d s : List Char} (h : utf8 d <+: utf8 s) : d <+: s := by
  induction d generalizing s with
  | nil => exact List.nil_prefix
  | cons c d ih =>
    cases s with
    | nil =>
      rw [utf8_nil, List.prefix_nil, utf8_cons, List.append_eq_nil_iff] at h
      exact absurd h.1 String.utf8EncodeChar_ne_nil
    | cons a s =>
      obtain ⟨t, ht⟩ := h
      rw [utf8_cons, utf8_cons, List.append_assoc] at ht
      obtain rfl := eq_of_utf8EncodeChar_append_eq ht
      exact List.cons_prefix_cons.2 ⟨rfl, ih ⟨t, List.append_cancel_left ht⟩⟩

/-- Bytes begin with those of a text exactly where the characters begin with it. -/
theorem utf8_prefix_utf8_iff {d s : List Char} : utf8 d <+: utf8 s ↔ d <+: s := by
  refine ⟨prefix_of_utf8_prefix_utf8, ?_⟩
  rintro ⟨t, rfl⟩
  rw [utf8_append]
  exact List.prefix_append _ _

/-- The byte of a character that has only one is not among those of any other character. -/
theorem eq_of_mem_utf8EncodeChar {a c : Char} {b : UInt8} (ha : String.utf8EncodeChar a = [b])
    (h : b ∈ String.utf8EncodeChar c) : c = a := by
  obtain ⟨i, hi, hget⟩ := List.getElem_of_mem h
  have hfirst : b.IsUTF8FirstByte := by
    simpa [ha] using UInt8.isUTF8FirstByte_getElem_zero_utf8EncodeChar (c := a)
  obtain rfl : i = 0 := by
    rw [← hget] at hfirst
    exact UInt8.isUTF8FirstByte_getElem_utf8EncodeChar.1 hfirst
  obtain ⟨b', t, ht⟩ := List.exists_cons_of_ne_nil (String.utf8EncodeChar_ne_nil (c := c))
  obtain rfl : b' = b := by simpa [ht] using hget
  refine eq_of_utf8EncodeChar_append_eq (x := []) (y := t) ?_
  rw [ha, ht, List.append_nil, List.singleton_append]

/-- A character of one byte occurs in a text exactly if its byte does. -/
theorem mem_utf8_iff {a : Char} {b : UInt8} (ha : String.utf8EncodeChar a = [b]) {s : List Char} :
    b ∈ utf8 s ↔ a ∈ s := by
  rw [utf8, List.mem_flatMap]
  constructor
  · rintro ⟨c, hc, hb⟩
    rwa [← eq_of_mem_utf8EncodeChar ha hb]
  · intro h
    exact ⟨a, h, by rw [ha]; exact List.mem_singleton_self b⟩

end StringCalculator
