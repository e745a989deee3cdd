import StringCalculator.Calculation
import StringCalculator.Console
import StringCalculator.Proofs.Header
import StringCalculator.Proofs.Offset.Scan

/-!
# Headers by offsets

Taking the header off a text, as it is done on bytes: the first line feed ends the first line, the
two slashes are cut off it, and the bracket groups in what is left are found as places and taken out
as slices (`extract?`). The scan works on what is behind it (`CutsInto`).

All of this looks for single bytes, and each of them is a whole character (`mem_utf8_iff`): it does
not stand inside another one, so the places next to it are boundaries. So no slice is undefined, and
what is found is what is found among the characters (`extract?_bytes`).
-/

namespace StringCalculator

namespace Header

/-! ### Bracket groups -/

/-- The byte of an opening bracket. -/
def openingByte : UInt8 := 0x5B

/-- The byte of a closing bracket. -/
def closingByte : UInt8 := 0x5D

/-- The place of the first closing bracket in bytes that stand at a place, and the bytes behind it,
if no line feed comes first. -/
def closing? (i : Nat) : List UInt8 → Option (Nat × List UInt8)
  | [] => none
  | b :: r =>
    if b = closingByte then some (i, r)
    else if b = lineFeed then none
    else closing? (i + 1) r

theorem length_closing? {i j : Nat} {bs rest : List UInt8} (h : closing? i bs = some (j, rest)) :
    rest.length < bs.length := by
  induction bs generalizing i with
  | nil => cases h
  | cons b r ih =>
    unfold closing? at h
    split at h
    · cases h
      simp
    · split at h
      · cases h
      · have := ih h
        simp only [List.length_cons]
        omega

/-- The places where the contents of bracket groups start and end, in bytes that stand at a given
place. -/
def spans (i : Nat) (bs : List UInt8) : List (Nat × Nat) :=
  match bs with
  | [] => []
  | b :: r =>
    if b = openingByte then
      match _h : closing? (i + 1) r with
      | some (j, rest) => (i + 1, j) :: spans (j + 1) rest
      | none => spans (i + 1) r
    else spans (i + 1) r
termination_by bs.length
decreasing_by
  · have := length_closing? _h
    simp only [List.length_cons]
    omega
  · simp
  · simp

/-- Bytes that end no group are passed over, and the offset grows by their number. -/
theorem closing?_append {bs : List UInt8} (hclose : closingByte ∉ bs) (hfeed : lineFeed ∉ bs)
    (i : Nat) (r : List UInt8) : closing? i (bs ++ r) = closing? (i + bs.length) r := by
  induction bs generalizing i with
  | nil => rfl
  | cons b bs ih =>
    rw [List.mem_cons, not_or] at hclose hfeed
    rw [List.cons_append, closing?, if_neg (Ne.symm hclose.1), if_neg (Ne.symm hfeed.1),
      ih hclose.2 hfeed.2, List.length_cons]
    congr 1
    omega

/-- An opening byte with a closing one behind it makes a span between the two. -/
theorem spans_cons_of_closing?_eq_some {i j : Nat} {bs rest : List UInt8}
    (h : closing? (i + 1) bs = some (j, rest)) :
    spans i (openingByte :: bs) = (i + 1, j) :: spans (j + 1) rest := by
  rw [spans, if_pos rfl]
  split
  · next h' =>
    rw [h] at h'
    cases h'
    rfl
  · next h' =>
    rw [h] at h'
    cases h'

theorem spans_cons_of_closing?_eq_none {i : Nat} {bs : List UInt8}
    (h : closing? (i + 1) bs = none) : spans i (openingByte :: bs) = spans (i + 1) bs := by
  rw [spans, if_pos rfl]
  split
  · next h' =>
    rw [h] at h'
    cases h'
  · rfl

theorem spans_append {bs : List UInt8} (hopen : openingByte ∉ bs) (i : Nat) (r : List UInt8) :
    spans i (bs ++ r) = spans (i + bs.length) r := by
  induction bs generalizing i with
  | nil => rfl
  | cons b bs ih =>
    rw [List.mem_cons, not_or] at hopen
    rw [List.cons_append, spans, if_neg (Ne.symm hopen.1), ih hopen.2, List.length_cons]
    congr 1
    omega

/-! ### Single bytes -/

theorem utf8EncodeChar_opening : String.utf8EncodeChar '[' = [openingByte] := by
  decide

theorem utf8EncodeChar_closing : String.utf8EncodeChar ']' = [closingByte] := by
  decide

theorem utf8EncodeChar_feed : String.utf8EncodeChar '\n' = [lineFeed] := by
  decide

/-- In encoded text, the closing byte is found where the closing bracket is. -/
theorem closing?_utf8 (i : Nat) (s : List Char) :
    closing? i (utf8 s) = (toClosing? s).map fun g ↦ (i + (utf8 g.1).length, utf8 g.2) := by
  induction s generalizing i with
  | nil => rfl
  | cons c s ih =>
    rw [utf8_cons, toClosing?]
    by_cases hclose : c = ']'
    · subst hclose
      rw [utf8EncodeChar_closing, if_pos rfl, List.singleton_append, closing?, if_pos rfl]
      rfl
    by_cases hfeed : c = '\n'
    · subst hfeed
      rw [utf8EncodeChar_feed, if_neg hclose, if_pos rfl, List.singleton_append, closing?,
        if_neg (by decide), if_pos rfl]
      rfl
    rw [if_neg hclose, if_neg hfeed,
      closing?_append (fun h ↦ hclose (eq_of_mem_utf8EncodeChar utf8EncodeChar_closing h))
        (fun h ↦ hfeed (eq_of_mem_utf8EncodeChar utf8EncodeChar_feed h)), ih, Option.map_map]
    congr 1
    funext g
    simp [utf8_cons, Nat.add_assoc]

/-- The places are those of the groups: the slice at each is defined, and holds what is in the
group. -/
theorem forall₂_spans (p s : List Char) :
    List.Forall₂ (fun span g ↦ slice? (utf8 (p ++ s)) span.1 span.2 = some (utf8 g))
      (spans (utf8 p).length (utf8 s)) (groups s) := by
  fun_induction groups s generalizing p with
  | case1 =>
    rw [utf8_nil, spans]
    exact .nil
  | case2 r content rest h ih =>
    obtain rfl := eq_append_of_toClosing?_eq_some h
    have hclosing : closing? ((utf8 p).length + 1) (utf8 (content ++ ']' :: rest)) =
        some ((utf8 p).length + 1 + (utf8 content).length, utf8 rest) := by
      rw [closing?_utf8, h]
      rfl
    rw [utf8_cons, utf8EncodeChar_opening, List.singleton_append,
      spans_cons_of_closing?_eq_some hclosing]
    refine .cons ?_ ?_
    · simpa [utf8_cons, utf8EncodeChar_opening, Nat.add_assoc, Nat.add_comm 1] using
        slice?_utf8 (p ++ ['[']) content (']' :: rest)
    · simpa [utf8_cons, utf8EncodeChar_opening, utf8EncodeChar_closing, Nat.add_assoc,
        Nat.add_comm 1] using ih (p ++ '[' :: (content ++ [']']))
  | case3 r h ih =>
    have hclosing : closing? ((utf8 p).length + 1) (utf8 r) = none := by
      rw [closing?_utf8, h]
      rfl
    rw [utf8_cons, utf8EncodeChar_opening, List.singleton_append,
      spans_cons_of_closing?_eq_none hclosing]
    simpa [utf8_cons, utf8EncodeChar_opening] using ih (p ++ ['['])
  | case4 c r hc ih =>
    rw [utf8_cons,
      spans_append (fun h ↦ hc (eq_of_mem_utf8EncodeChar utf8EncodeChar_opening h))]
    simpa [utf8_cons] using ih (p ++ [c])

/-! ### Declared delimiters -/

/-- The delimiters that the bytes behind the two slashes declare, each as a text of its own. -/
def declaredIn? (spec : List UInt8) : Option (List String) := do
  match spans 0 spec with
  | [] =>
    if spec.isEmpty then return []
    else return [← decode? spec]
  | places =>
    let contents ← places.mapM fun place ↦ slice? spec place.1 place.2
    (contents.filter fun content ↦ !content.isEmpty).mapM decode?

theorem mapM_eq_some_of_forall₂ {α β : Type} {f : α → Option β} {as : List α} {bs : List β}
    (h : List.Forall₂ (fun a b ↦ f a = some b) as bs) : as.mapM f = some bs := by
  induction h with
  | nil => rfl
  | cons hab _ ih => simp [List.mapM_cons, hab, ih]

/-- The slices at the spans of a line are the delimiters it declares. -/
theorem declaredIn?_bytes (spec : String) :
    declaredIn? (Delimiter.bytes spec) = some (declared spec) := by
  have hspans : List.Forall₂ (fun span g ↦ slice? (utf8 spec.toList) span.1 span.2 = some (utf8 g))
      (spans 0 (utf8 spec.toList)) (groups spec.toList) := forall₂_spans [] spec.toList
  rw [declaredIn?, declared, Delimiter.bytes_eq_utf8]
  generalize spans 0 (utf8 spec.toList) = places at hspans
  generalize groups spec.toList = gs at hspans
  cases hspans with
  | nil =>
    -- no group at all, so the whole of it is one delimiter
    by_cases hempty : spec = ""
    · subst hempty
      rfl
    · have hne : ¬(utf8 spec.toList).isEmpty = true := by simpa using hempty
      simp [hempty, hne, decode?_utf8]
  | @cons place g places gs hplace hplaces =>
    have hslices : (place :: places).mapM (fun place ↦ slice? (utf8 spec.toList) place.1 place.2) =
        some ((g :: gs).map utf8) :=
      mapM_eq_some_of_forall₂ (List.forall₂_map_right_iff.2 (.cons hplace hplaces))
    have hfilter : ((g :: gs).map utf8).filter (fun content ↦ !content.isEmpty) =
        ((g :: gs).filter fun g ↦ !g.isEmpty).map utf8 := by
      rw [List.filter_map]
      simp only [Function.comp_def, isEmpty_utf8]
    simp only [hslices, Option.bind_eq_bind, Option.bind_some, hfilter]
    refine mapM_eq_some_of_forall₂ ?_
    rw [List.forall₂_map_left_iff, List.forall₂_map_right_iff, List.forall₂_same]
    exact fun t _ ↦ decode?_utf8 t

/-! ### Headers -/

/-- The bytes of the two slashes that a header begins with. -/
def marker : List UInt8 :=
  Delimiter.bytes "//"

/-- The delimiters in force for a text, with those that its header declares behind the given ones,
and what is left of the text. -/
def extract? (base : List String) (raw : List UInt8) : Option (List String × List UInt8) := do
  if marker.isPrefixOf raw then
    match raw.findIdx? fun b ↦ b == lineFeed with
    | none => return (base, raw)
    | some i =>
      let header ← slice? raw 0 i
      let payload ← slice? raw (i + 1) raw.length
      let spec ← slice? header marker.length header.length
      let declared ← declaredIn? spec
      return (base ++ declared, payload)
  else return (base, raw)

theorem findIdx?_feed_of_not_mem {s : List Char} (h : '\n' ∉ s) :
    (utf8 s).findIdx? (fun b ↦ b == lineFeed) = none := by
  rw [List.findIdx?_eq_none_iff]
  intro b hb
  have hne : b ≠ lineFeed := by
    rintro rfl
    exact h ((mem_utf8_iff utf8EncodeChar_feed).1 hb)
  simpa using hne

/-- The first line feed is found behind the bytes in front of it. -/
theorem findIdx?_feed_append {s : List Char} (h : '\n' ∉ s) (r : List Char) :
    (utf8 (s ++ '\n' :: r)).findIdx? (fun b ↦ b == lineFeed) = some (utf8 s).length := by
  rw [utf8_append, utf8_cons, utf8EncodeChar_feed, List.findIdx?_append,
    findIdx?_feed_of_not_mem h]
  simp [List.findIdx?_cons]

/-- The bytes of a text begin with the marker exactly if the text begins with two slashes. -/
theorem marker_isPrefixOf_iff {s : List Char} :
    marker.isPrefixOf (utf8 s) = true ↔ ['/', '/'] <+: s := by
  rw [List.isPrefixOf_iff_prefix, marker, Delimiter.bytes_eq_utf8, utf8_prefix_utf8_iff]
  rfl

/-- From a headed text, its declared delimiters and its payload are extracted. -/
theorem extract?_attach (base : List String) {spec : String} (hspec : '\n' ∉ spec.toList)
    (payload : String) :
    extract? base (Delimiter.bytes (attach spec payload)) =
      some (base ++ declared spec, Delimiter.bytes payload) := by
  have hraw : Delimiter.bytes (attach spec payload) =
      utf8 (['/', '/'] ++ spec.toList ++ '\n' :: payload.toList) := by
    rw [Delimiter.bytes_eq_utf8, toList_attach]
    simp
  rw [hraw]
  generalize hline : ['/', '/'] ++ spec.toList = line
  have hprefix : marker.isPrefixOf (utf8 (line ++ '\n' :: payload.toList)) = true := by
    rw [marker_isPrefixOf_iff, ← hline, List.append_assoc]
    exact List.prefix_append _ _
  have hfeed : '\n' ∉ line := by simpa [← hline] using hspec
  have hheader : slice? (utf8 (line ++ '\n' :: payload.toList)) 0 (utf8 line).length =
      some (utf8 line) := slice?_utf8 [] line _
  have hpayload : slice? (utf8 (line ++ '\n' :: payload.toList)) ((utf8 line).length + 1)
      (utf8 (line ++ '\n' :: payload.toList)).length = some (utf8 payload.toList) := by
    simpa [utf8_cons, utf8EncodeChar_feed] using slice?_utf8_end (line ++ ['\n']) payload.toList
  have hspec' : slice? (utf8 line) marker.length (utf8 line).length = some (utf8 spec.toList) := by
    rw [marker, Delimiter.bytes_eq_utf8, ← hline]
    exact slice?_utf8_end _ _
  rw [extract?, if_pos hprefix, findIdx?_feed_append hfeed]
  simp only [hheader, hpayload, hspec', Option.bind_eq_bind, Option.bind_some]
  rw [← Delimiter.bytes_eq_utf8, ← Delimiter.bytes_eq_utf8, declaredIn?_bytes]
  rfl

/-- Taking a header off by offsets is defined, and gives what taking it off by characters gives. -/
theorem extract?_bytes (base : List String) (raw : String) :
    extract? base (Delimiter.bytes raw) =
      some (base ++ (detach raw).declared, Delimiter.bytes (detach raw).payload) := by
  by_cases h : IsHeaded raw
  · obtain ⟨spec, payload, hspec, rfl⟩ := exists_eq_attach_of_isHeaded h
    rw [extract?_attach base hspec, detach_attach hspec]
  · rw [detach_of_not_isHeaded h, List.append_nil, extract?, Delimiter.bytes_eq_utf8]
    split
    · next hprefix =>
      rw [findIdx?_feed_of_not_mem fun hfeed ↦ h ⟨marker_isPrefixOf_iff.1 hprefix, hfeed⟩]
      rfl
    · rfl

end Header

/-! ### Both stages -/

/-- What a text falls into under a configuration by offsets, if every slice is defined and the scan
ends. -/
inductive Configuration.CutsInto (c : Configuration) (raw : List UInt8)
    (tokens : List (List UInt8)) : Prop
  | intro {ds : List String} {payload : List UInt8}
      (extracted : Header.extract? c.delimiters raw = some (ds, payload))
      (ends : Scan.Ends ((Delimiter.ranked ds).map Delimiter.bytes) payload .initial tokens)

/-- A text is cut at offsets into the pieces that it is cut into as characters. -/
theorem Configuration.cutsInto_bytes_iff {c : Configuration} {raw : String}
    {tokens : List (List UInt8)} :
    c.CutsInto (Delimiter.bytes raw) tokens ↔
      (Delimiter.pieces (c.delimitersFor (Header.detach raw))
        (Header.detach raw).payload).map Delimiter.bytes = tokens := by
  rw [← Scan.ends_initial_iff]
  constructor
  · rintro ⟨hextract, hends⟩
    rw [Header.extract?_bytes] at hextract
    cases hextract
    exact hends
  · exact .intro (Header.extract?_bytes _ _)

/-- **Every slice is defined**, whatever the text and the delimiters are. Taking a header off gives
what it gives by characters. A state that the scan comes to has its places in order, inside the text
and on boundaries; a turn from there is defined and goes further on, and what has not been taken out
is a slice. So the scan ends, with the pieces that consuming the longest delimiter wherever there is
one gives. Both stages together give the pieces that are calculated with. -/
theorem slices_defined :
    (∀ (base : List String) (raw : String),
        Header.extract? base (Delimiter.bytes raw) =
          some (base ++ (Header.detach raw).declared,
            Delimiter.bytes (Header.detach raw).payload)) ∧
      (∀ (ds : List String) (payload : String) (σ : Scan.State),
        Scan.Reached ((Delimiter.ranked ds).map Delimiter.bytes) (Delimiter.bytes payload) σ →
        Scan.Placed (Delimiter.bytes payload) σ ∧
          (σ.pos < (Delimiter.bytes payload).length →
            ∃ σ', Scan.turn? ((Delimiter.ranked ds).map Delimiter.bytes) (Delimiter.bytes payload)
              σ = some σ' ∧ σ.pos < σ'.pos) ∧
          ∃ token, slice? (Delimiter.bytes payload) σ.start (Delimiter.bytes payload).length =
            some token) ∧
      (∀ (ds : List String) (payload : String),
        (∀ tokens, Scan.Ends ((Delimiter.ranked ds).map Delimiter.bytes) (Delimiter.bytes payload)
            .initial tokens ↔ (Delimiter.pieces ds payload).map Delimiter.bytes = tokens) ∧
          Delimiter.Scans ds payload.toList ((Delimiter.pieces ds payload).map String.toList)) ∧
      (∀ (c : Configuration) (raw : String) (tokens : List (List UInt8)),
        c.CutsInto (Delimiter.bytes raw) tokens ↔
          (Delimiter.pieces (c.delimitersFor (Header.detach raw))
            (Header.detach raw).payload).map Delimiter.bytes = tokens) := by
  refine ⟨Header.extract?_bytes, fun ds payload σ h ↦ ?_, fun ds payload ↦
    ⟨fun _ ↦ Scan.ends_initial_iff, ?_⟩, fun c raw tokens ↦ Configuration.cutsInto_bytes_iff⟩
  · have hds := Scan.nil_not_mem_ranked ds
    rw [Scan.map_bytes, Delimiter.bytes_eq_utf8] at h ⊢
    have htracks := Scan.tracks_of_reached hds h
    have ⟨_, _, _, _, hstands⟩ := htracks
    refine ⟨hstands.placed, fun hlt ↦ ?_, _, hstands.slice?_left⟩
    obtain ⟨σ', hturn, -, hpos⟩ := Scan.exists_turn_of_tracks hds htracks hlt
    exact ⟨σ', hturn, hpos⟩
  · rw [Delimiter.scans_iff, Delimiter.pieces, List.map_map]
    simp [Function.comp_def]

/-- Delimiters of two, three and six bytes, with an empty one among them, and a text that ends in a
character of four bytes. -/
theorem slices_defined_multibyte :
    Scan.Placed (Delimiter.bytes "1→→2é😀") .initial ∧
      ({ delimiters := ["→", ""] } : Configuration).CutsInto
        (Delimiter.bytes "//[é][→→]\n1→→2é😀") (["1", "2", "😀"].map Delimiter.bytes) := by
  obtain ⟨-, hreached, -, hcuts⟩ := slices_defined
  exact ⟨(hreached ["→→", "é", "→", ""] _ _ .initial).1, (hcuts _ _ _).2 (by decide +kernel)⟩

end StringCalculator
