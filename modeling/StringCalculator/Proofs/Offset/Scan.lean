import StringCalculator.Proofs.Delimiter.Splitting
import StringCalculator.Proofs.Offset.Slice

/-!
# The scan by offsets

The scan that cuts a text, as it is done on bytes: it keeps the place where the current piece
starts and the place it has come to, and takes pieces out as slices. As slices are partial, so is a
turn of the scan, and the scan need not end (`Ends`).

`Tracks` says what a state of the scan means for the characters: it stands between what has been
cut, the characters of the current piece, and the rest. A turn is defined in every such state and
leads to another one further on (`exists_turn_of_tracks`), since a delimiter is a text, so that it
ends on a boundary where it starts on one, and what is skipped is a whole character. Hence the scan
comes to its end, with the pieces that cutting by characters gives (`ends_initial_iff`).

Cutting by characters is said without a function by `Scans`: the longest delimiter is consumed where
there is one, and a character is skipped where there is none (`scans_iff`).
-/

namespace StringCalculator

namespace Delimiter

/-! ### Character by character -/

/-- The pieces that a text falls into, one character after the other. -/
inductive Scans (ds : List String) : List Char → List (List Char) → Prop
  /-- At the end, the last piece ends. -/
  | nil : Scans ds [] [[]]
  /-- The longest delimiter ends a piece, and the next one begins behind it. -/
  | found {d : String} {r : List Char} {ts : List (List Char)}
      (longest : LongestAt ds d (d.toList ++ r)) (rest : Scans ds r ts) :
      Scans ds (d.toList ++ r) ([] :: ts)
  /-- Where there is no delimiter, a character goes into the piece. -/
  | skipped {c : Char} {r t : List Char} {ts : List (List Char)}
      (none : ∀ d ∈ ds, d ≠ "" → ¬d.toList <+: c :: r) (rest : Scans ds r (t :: ts)) :
      Scans ds (c :: r) ((c :: t) :: ts)

/-- Cutting follows the scan. -/
theorem scans_cut (ds : List String) (s : List Char) :
    Scans ds s (cut ((ranked ds).map String.toList) s) := by
  generalize hes : (ranked ds).map String.toList = es
  fun_induction cut es s with
  | case1 => exact .nil
  | case2 c r d hfirst ih =>
    subst hes
    obtain ⟨e, -, rfl⟩ := List.mem_map.1 (List.mem_of_find?_eq_some hfirst)
    have hlongest := firstAt?_ranked_eq_some_iff.1 hfirst
    obtain ⟨r', hr'⟩ := hlongest.starts
    have hdrop : r.drop (e.toList.length - 1) = r' := by
      have hne : e.toList ≠ [] := by simpa using hlongest.ne_empty
      obtain ⟨a, t, ht⟩ := List.exists_cons_of_ne_nil hne
      rw [ht, List.cons_append, List.cons.injEq] at hr'
      rw [ht, ← hr'.2]
      simp
    rw [hdrop] at ih ⊢
    rw [← hr'] at hlongest ⊢
    exact .found hlongest ih
  | case3 c r hfirst ih =>
    subst hes
    obtain ⟨t, ts, hts⟩ := List.exists_cons_of_ne_nil (cut_ne_nil _ r)
    rw [hts] at ih ⊢
    exact .skipped (firstAt?_ranked_eq_none_iff.1 hfirst) ih

/-- **Cutting consumes the longest delimiter wherever there is one**, and nothing else does. -/
theorem scans_iff {ds : List String} {s : List Char} {ts : List (List Char)} :
    Scans ds s ts ↔ cut ((ranked ds).map String.toList) s = ts := by
  constructor
  · intro h
    induction h with
    | nil => exact cut_nil _
    | found hlongest _ ih =>
      rw [cut_append_of_firstAt?_eq_some (by simpa using hlongest.ne_empty)
        (firstAt?_ranked_eq_some_iff.2 hlongest), ih]
    | skipped hnone _ ih =>
      rw [cut_cons_of_firstAt?_eq_none (firstAt?_ranked_eq_none_iff.2 hnone), ih,
        List.modifyHead_cons]
  · rintro rfl
    exact scans_cut ds s

end Delimiter

/-! ### States and turns -/

namespace Scan

/-- How far a scan has come. -/
structure State where
  /-- The pieces taken out so far. -/
  tokens : List (List UInt8)
  /-- Where the current piece starts. -/
  start : Nat
  /-- Where the scan is. -/
  pos : Nat

/-- A scan that has not begun. -/
def State.initial : State :=
  ⟨[], 0, 0⟩

/-- A turn of the scan. -/
def turn? (ds : List (List UInt8)) (payload : List UInt8) (σ : State) : Option State := do
  let rest ← slice? payload σ.pos payload.length
  match ds.find? fun d ↦ d.isPrefixOf rest with
  | some d =>
    let token ← slice? payload σ.start σ.pos
    return ⟨σ.tokens ++ [token], σ.pos + d.length, σ.pos + d.length⟩
  | none => return { σ with pos := σ.pos + firstWidth rest }

/-- The states that a scan comes to. -/
inductive Reached (ds : List (List UInt8)) (payload : List UInt8) : State → Prop
  | initial : Reached ds payload .initial
  | turn {σ σ' : State} (reached : Reached ds payload σ) (lt : σ.pos < payload.length)
      (eq : turn? ds payload σ = some σ') : Reached ds payload σ'

/-- What a scan ends with from a state, if it ends. -/
inductive Ends (ds : List (List UInt8)) (payload : List UInt8) : State → List (List UInt8) → Prop
  /-- At the end of the text, what is left is the last piece. -/
  | last {σ : State} {token : List UInt8} (not_lt : ¬σ.pos < payload.length)
      (eq : slice? payload σ.start payload.length = some token) :
      Ends ds payload σ (σ.tokens ++ [token])
  /-- In front of it, there is another turn. -/
  | turn {σ σ' : State} {tokens : List (List UInt8)} (lt : σ.pos < payload.length)
      (eq : turn? ds payload σ = some σ') (ends : Ends ds payload σ' tokens) :
      Ends ds payload σ tokens

theorem Ends.unique {ds : List (List UInt8)} {payload : List UInt8} {σ : State}
    {tokens tokens' : List (List UInt8)} (h : Ends ds payload σ tokens)
    (h' : Ends ds payload σ tokens') : tokens = tokens' := by
  induction h with
  | last hnot heq =>
    cases h' with
    | last _ heq' => rw [Option.some.inj (heq.symm.trans heq')]
    | turn hlt _ _ => exact absurd hlt hnot
  | turn hlt heq _ ih =>
    cases h' with
    | last hnot _ => exact absurd hlt hnot
    | turn _ heq' hends =>
      obtain rfl := Option.some.inj (heq.symm.trans heq')
      exact ih hends

/-- Whether the places of a state can be used in slices: they are in order, inside the text, and on
boundaries between characters. -/
structure Placed (payload : List UInt8) (σ : State) : Prop where
  /-- The current piece starts no later than where the scan is. -/
  start_le : σ.start ≤ σ.pos
  /-- The scan is inside the text. -/
  pos_le : σ.pos ≤ payload.length
  /-- The current piece starts with a character. -/
  start_boundary : isBoundary payload σ.start = true
  /-- The scan is in front of a character. -/
  pos_boundary : isBoundary payload σ.pos = true

/-! ### What a state means -/

/-- Whether a state stands in a text behind given characters and those of the current piece, where
cutting the text gives the pieces taken out so far, and then what the rest gives. -/
structure Stands (ds : List (List Char)) (s : List Char) (pieces : List (List Char))
    (before piece rest : List Char) (σ : State) : Prop where
  /-- The text is in three parts. -/
  text_eq : s = before ++ piece ++ rest
  /-- What has been taken out are the pieces. -/
  tokens_eq : σ.tokens = pieces.map utf8
  /-- The current piece starts behind the first part. -/
  start_eq : σ.start = (utf8 before).length
  /-- The scan is behind the second one. -/
  pos_eq : σ.pos = (utf8 (before ++ piece)).length
  /-- The pieces are those that cutting gives. -/
  cut_eq : Delimiter.cut ds s = pieces ++ (Delimiter.cut ds rest).modifyHead (piece ++ ·)

/-- Whether a state stands somewhere between the characters of a text. -/
def Tracks (ds : List (List Char)) (s : List Char) (σ : State) : Prop :=
  ∃ pieces before piece rest, Stands ds s pieces before piece rest σ

variable {ds : List (List Char)} {s : List Char} {σ : State}

theorem modifyHead_nil_append (ts : List (List Char)) : ts.modifyHead ([] ++ ·) = ts :=
  congrFun List.modifyHead_id ts

/-- At its beginning a scan has all of the text in front of it. -/
theorem tracks_initial (ds : List (List Char)) (s : List Char) : Tracks ds s .initial :=
  ⟨[], [], [], s, rfl, rfl, rfl, rfl, (modifyHead_nil_append _).symm⟩

namespace Stands

variable {pieces : List (List Char)} {before piece rest d : List Char} {c : Char}

/-- From the position on, the slice is what is left of the text. -/
theorem slice?_rest (h : Stands ds s pieces before piece rest σ) :
    slice? (utf8 s) σ.pos (utf8 s).length = some (utf8 rest) := by
  rw [h.pos_eq, h.text_eq]
  exact slice?_utf8_end _ _

/-- From the start of the piece to the position, the slice is what has been read of it. -/
theorem slice?_piece (h : Stands ds s pieces before piece rest σ) :
    slice? (utf8 s) σ.start σ.pos = some (utf8 piece) := by
  rw [h.start_eq, h.pos_eq, h.text_eq]
  exact slice?_utf8 _ _ _

/-- All that has not been taken out is a slice. -/
theorem slice?_left (h : Stands ds s pieces before piece rest σ) :
    slice? (utf8 s) σ.start (utf8 s).length = some (utf8 (piece ++ rest)) := by
  rw [h.start_eq, h.text_eq, List.append_assoc]
  exact slice?_utf8_end _ _

/-- So the places of the state can be used in slices. -/
theorem placed (h : Stands ds s pieces before piece rest σ) : Placed (utf8 s) σ := by
  refine ⟨by simp [h.start_eq, h.pos_eq], by simp [h.pos_eq, h.text_eq], ?_, ?_⟩
  · rw [h.start_eq, h.text_eq, List.append_assoc]
    exact isBoundary_utf8_append _ _
  · rw [h.pos_eq, h.text_eq]
    exact isBoundary_utf8_append _ _

/-- Where no delimiter begins, a character goes into the current piece. -/
theorem skip (h : Stands ds s pieces before piece (c :: rest) σ)
    (hfirst : Delimiter.firstAt? ds (c :: rest) = none) :
    Stands ds s pieces before (piece ++ [c]) rest { σ with pos := σ.pos + c.utf8Size } := by
  refine ⟨by simp [h.text_eq], h.tokens_eq, h.start_eq, ?_, ?_⟩
  · simp [h.pos_eq, utf8_cons, Nat.add_assoc]
  · rw [h.cut_eq, Delimiter.cut_cons_of_firstAt?_eq_none hfirst, List.modifyHead_modifyHead]
    simp [Function.comp_def]

/-- A delimiter ends the current piece. -/
theorem consume (h : Stands ds s pieces before piece (d ++ rest) σ) (hne : d ≠ [])
    (hfirst : Delimiter.firstAt? ds (d ++ rest) = some d) :
    Stands ds s (pieces ++ [piece]) (before ++ piece ++ d) [] rest
      ⟨σ.tokens ++ [utf8 piece], σ.pos + (utf8 d).length, σ.pos + (utf8 d).length⟩ := by
  have hplace : σ.pos + (utf8 d).length = (utf8 (before ++ piece ++ d)).length := by
    rw [h.pos_eq, utf8_append _ d, List.length_append]
  refine ⟨by simp [h.text_eq], by simp [h.tokens_eq], hplace, by rw [List.append_nil, hplace], ?_⟩
  rw [h.cut_eq, Delimiter.cut_append_of_firstAt?_eq_some hne hfirst, modifyHead_nil_append]
  simp

end Stands

/-! ### Turns and runs -/

/-- The delimiter found in the bytes is the one found in the text. -/
theorem find?_map_utf8 (ds : List (List Char)) (s : List Char) :
    ((ds.map utf8).find? fun d ↦ d.isPrefixOf (utf8 s)) = (Delimiter.firstAt? ds s).map utf8 := by
  have hprefix : ∀ d : List Char, (utf8 d).isPrefixOf (utf8 s) = d.isPrefixOf s := fun d ↦ by
    rw [Bool.eq_iff_iff, List.isPrefixOf_iff_prefix, List.isPrefixOf_iff_prefix,
      utf8_prefix_utf8_iff]
  rw [List.find?_map, Delimiter.firstAt?]
  simp only [Function.comp_def, hprefix]

section

variable {payload token : List UInt8} {d rest : List Char} {c : Char}

/-- Where no delimiter begins, a turn passes over one character. -/
theorem turn?_of_firstAt?_eq_none
    (hrest : slice? payload σ.pos payload.length = some (utf8 (c :: rest)))
    (h : Delimiter.firstAt? ds (c :: rest) = none) :
    turn? (ds.map utf8) payload σ = some { σ with pos := σ.pos + c.utf8Size } := by
  simp only [turn?, hrest, Option.bind_eq_bind, Option.bind_some, find?_map_utf8, h,
    Option.map_none, firstWidth_utf8_cons]
  rfl

/-- Where one begins, a turn takes the piece in front of it and goes behind it. -/
theorem turn?_of_firstAt?_eq_some (hrest : slice? payload σ.pos payload.length = some (utf8 rest))
    (htoken : slice? payload σ.start σ.pos = some token)
    (h : Delimiter.firstAt? ds rest = some d) :
    turn? (ds.map utf8) payload σ =
      some ⟨σ.tokens ++ [token], σ.pos + (utf8 d).length, σ.pos + (utf8 d).length⟩ := by
  simp only [turn?, hrest, htoken, Option.bind_eq_bind, Option.bind_some, find?_map_utf8, h,
    Option.map_some]
  rfl

end

/-- A turn goes from one place between characters to another one. -/
theorem exists_turn_of_tracks (hds : [] ∉ ds) (h : Tracks ds s σ) (hlt : σ.pos < (utf8 s).length) :
    ∃ σ', turn? (ds.map utf8) (utf8 s) σ = some σ' ∧ Tracks ds s σ' ∧ σ.pos < σ'.pos := by
  obtain ⟨pieces, before, piece, rest, h⟩ := h
  rcases hfirst : Delimiter.firstAt? ds rest with - | d
  · cases rest with
    | nil => simp [h.pos_eq, h.text_eq] at hlt
    | cons c r =>
      exact ⟨_, turn?_of_firstAt?_eq_none h.slice?_rest hfirst, ⟨_, _, _, _, h.skip hfirst⟩,
        Nat.lt_add_of_pos_right c.utf8Size_pos⟩
  · have hne : d ≠ [] := fun hnil ↦ hds (hnil ▸ List.mem_of_find?_eq_some hfirst)
    obtain ⟨r, rfl⟩ : d <+: rest := by simpa using List.find?_some hfirst
    exact ⟨_, turn?_of_firstAt?_eq_some h.slice?_rest h.slice?_piece hfirst,
      ⟨_, _, _, _, h.consume hne hfirst⟩,
      Nat.lt_add_of_pos_right (List.length_pos_iff.2 (utf8_ne_nil hne))⟩

/-- Every state that a scan comes to stands between characters. -/
theorem tracks_of_reached (hds : [] ∉ ds) (h : Reached (ds.map utf8) (utf8 s) σ) :
    Tracks ds s σ := by
  induction h with
  | initial => exact tracks_initial ds s
  | turn _ hlt heq ih =>
    obtain ⟨σ', hturn, htracks, -⟩ := exists_turn_of_tracks hds ih hlt
    rw [heq, Option.some.injEq] at hturn
    exact hturn ▸ htracks

/-- What is left to scan gets shorter with each turn, so the scan ends, and with the pieces that
cutting gives. -/
theorem ends_of_tracks (hds : [] ∉ ds) (h : Tracks ds s σ) :
    Ends (ds.map utf8) (utf8 s) σ ((Delimiter.cut ds s).map utf8) := by
  induction hleft : (utf8 s).length - σ.pos using Nat.strong_induction_on generalizing σ with
  | _ left ih =>
    by_cases hlt : σ.pos < (utf8 s).length
    · obtain ⟨σ', hturn, htracks, hpos⟩ := exists_turn_of_tracks hds h hlt
      exact .turn hlt hturn (ih _ (by omega) htracks rfl)
    · obtain ⟨pieces, before, piece, rest, h⟩ := h
      obtain rfl : rest = [] := by
        by_contra hne
        have := List.length_pos_iff.2 (utf8_ne_nil hne)
        rw [h.pos_eq, h.text_eq, utf8_append _ rest, List.length_append] at hlt
        omega
      have htokens : (Delimiter.cut ds s).map utf8 = σ.tokens ++ [utf8 (piece ++ [])] := by
        rw [h.cut_eq, Delimiter.cut_nil, h.tokens_eq]
        simp
      rw [htokens]
      exact .last hlt h.slice?_left

/-! ### Scans of texts -/

theorem map_bytes (ds : List String) :
    ds.map Delimiter.bytes = (ds.map String.toList).map utf8 := by
  rw [List.map_map]
  exact List.map_congr_left fun d _ ↦ Delimiter.bytes_eq_utf8 d

theorem nil_not_mem_ranked (ds : List String) : [] ∉ (Delimiter.ranked ds).map String.toList := by
  intro h
  obtain ⟨d, hd, hnil⟩ := List.mem_map.1 h
  exact (Delimiter.mem_ranked.1 hd).2 (by simpa using hnil)

/-- **The scan by offsets ends with the pieces that cutting by characters gives.** -/
theorem ends_initial_iff {ds : List String} {payload : String} {tokens : List (List UInt8)} :
    Ends ((Delimiter.ranked ds).map Delimiter.bytes) (Delimiter.bytes payload) .initial tokens ↔
      (Delimiter.pieces ds payload).map Delimiter.bytes = tokens := by
  have hpieces : (Delimiter.pieces ds payload).map Delimiter.bytes =
      (Delimiter.cut ((Delimiter.ranked ds).map String.toList) payload.toList).map utf8 := by
    rw [Delimiter.pieces, List.map_map]
    exact List.map_congr_left fun t _ ↦ Delimiter.bytes_ofList t
  have hends := ends_of_tracks (nil_not_mem_ranked ds) (tracks_initial _ payload.toList)
  rw [hpieces, map_bytes, Delimiter.bytes_eq_utf8]
  refine ⟨hends.unique, ?_⟩
  rintro rfl
  exact hends

end Scan

end StringCalculator
