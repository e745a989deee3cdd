import Mathlib.Data.List.Forall2
import StringCalculator.Operation
import StringCalculator.Proofs.Trimming

/-!
# What denotes an operation

The texts that denote an operation, said without the reader: its symbol, or its name with any of
its letters in upper case, between blanks (`Denotes`). The reader takes these texts for that
operation and refuses all others (`ofText_exactly_denotes`).

A single character and a longer text are read in different ways, but since no name is a single
character the two ways do not get into each other's way (`ofText_eq_ok_iff`). They differ in what a
refusal reports. A text with one character between its blanks is reported by that character, and any
other one as it was given, with its blanks.

Upper and lower case are those of ASCII letters alone. So there is nothing beyond ASCII in a text
that denotes an operation, other than blanks, and `Unreadable` lists this among the ways for a text
to denote none.
-/

namespace StringCalculator

/-! ### Letters in either case -/

/-- The characters that count as one where the case of letters is left out of account. -/
inductive SameLetter : Char → Char → Prop
  /-- Every character counts as itself. -/
  | refl (c : Char) : SameLetter c c
  /-- A letter `A` to `Z` counts as the one 32 places behind it. -/
  | lower {c d : Char} (upper : c.isUpper = true) (behind : d.toNat = c.toNat + 32) : SameLetter c d
  /-- And so the other way round. -/
  | upper {c d : Char} (upper : d.isUpper = true) (behind : c.toNat = d.toNat + 32) : SameLetter c d

theorem isUpper_iff_toNat {c : Char} : c.isUpper = true ↔ 65 ≤ c.toNat ∧ c.toNat ≤ 90 := by
  show decide (c.val ≥ 'A'.val ∧ c.val ≤ 'Z'.val) = true ↔ _
  rw [decide_eq_true_eq]
  rfl

theorem toNat_toLower_of_isUpper {c : Char} (h : c.isUpper = true) :
    c.toLower.toNat = c.toNat + 32 := by
  have hrange := isUpper_iff_toNat.1 h
  have hlower : c.toLower = _ := dif_pos hrange
  rw [hlower]
  show (c.val + 32).toNat = c.toNat + 32
  rw [UInt32.toNat_add]
  show (c.toNat + 32) % 2 ^ 32 = c.toNat + 32
  omega

theorem toLower_of_not_isUpper {c : Char} (h : ¬c.isUpper = true) : c.toLower = c := by
  rw [isUpper_iff_toNat] at h
  exact dif_neg h

/-- What has a given small form is the character itself or its capital. -/
theorem toLower_eq_iff {c d : Char} (hd : ¬d.isUpper = true) :
    c.toLower = d ↔ SameLetter c d := by
  constructor
  · rintro rfl
    by_cases hc : c.isUpper = true
    · exact .lower hc (toNat_toLower_of_isUpper hc)
    · rw [toLower_of_not_isUpper hc]
      exact .refl c
  · intro h
    cases h with
    | refl => exact toLower_of_not_isUpper hd
    | lower hc hbehind =>
      exact Char.toNat_inj.1 ((toNat_toLower_of_isUpper hc).trans hbehind.symm)
    | upper hupper => exact absurd hupper hd

/-- Lowering the letters of a text gives a word without upper case exactly if both have the same
letters. -/
theorem map_toLower_eq_iff {s t : List Char} (ht : ∀ c ∈ t, ¬c.isUpper = true) :
    s.map Char.toLower = t ↔ List.Forall₂ SameLetter s t := by
  induction s generalizing t with
  | nil => simp [eq_comm]
  | cons c s ih =>
    match t with
    | [] => simp
    | d :: t =>
      rw [List.map_cons, List.cons.injEq, List.forall₂_cons,
        toLower_eq_iff (ht d List.mem_cons_self), ih fun a ha ↦ ht a (List.mem_cons_of_mem d ha)]

namespace Operation

/-! ### Words -/

/-- The words for an operation. -/
inductive WordFor (op : Operation) : List Char → Prop
  /-- Its symbol. -/
  | symbol : WordFor op [op.symbol]
  /-- Its name, with letters in either case. -/
  | name {word : List Char} (letters : List.Forall₂ SameLetter word op.name.toList) :
      WordFor op word

section

variable {word : List Char} {c : Char} {op : Operation}

/-- Names are in lower case. -/
theorem toNat_of_mem_name (h : c ∈ op.name.toList) : 97 ≤ c.toNat ∧ c.toNat ≤ 122 := by
  have hall : op.name.toList.all (fun d ↦ decide (97 ≤ d.toNat ∧ d.toNat ≤ 122)) = true := by
    cases op <;> decide
  exact of_decide_eq_true (List.all_eq_true.1 hall c h)

theorem not_isUpper_of_mem_name (h : c ∈ op.name.toList) : ¬c.isUpper = true := by
  rw [isUpper_iff_toNat]
  have hrange := toNat_of_mem_name h
  omega

/-- A name is recognised in capitals and small letters as they come. -/
theorem ofName?_eq_some_iff :
    ofName? word = some op ↔ List.Forall₂ SameLetter word op.name.toList := by
  rw [← map_toLower_eq_iff fun _ ↦ not_isUpper_of_mem_name]
  constructor
  · intro h
    have hname := List.find?_some h
    exact (beq_iff_eq.1 hname).symm
  · intro h
    rw [ofName?, h]
    cases op <;> decide

/-- An operation is recognised by its symbol. -/
theorem ofChar_eq_ok_iff : ofChar c = .ok op ↔ c = op.symbol := by
  rw [← ofSymbol?_eq_some_iff, ofChar]
  rcases ofSymbol? c with - | op' <;> simp

/-- What is written with the letters of a name is written with ASCII letters. -/
theorem toNat_of_mem_letters (h : List.Forall₂ SameLetter word op.name.toList) (hc : c ∈ word) :
    65 ≤ c.toNat ∧ c.toNat ≤ 122 := by
  rw [← map_toLower_eq_iff fun _ ↦ not_isUpper_of_mem_name] at h
  have hlower : c.toLower ∈ op.name.toList := h ▸ List.mem_map_of_mem hc
  have hrange := toNat_of_mem_name hlower
  by_cases hupper : c.isUpper = true
  · have hupperRange := isUpper_iff_toNat.1 hupper
    omega
  · rw [toLower_of_not_isUpper hupper] at hrange
    omega

theorem toNat_symbol (op : Operation) : 33 ≤ op.symbol.toNat ∧ op.symbol.toNat < 65 := by
  cases op <;> decide

/-- No name is a single character, so that none is taken for a symbol. -/
theorem one_lt_length_name (op : Operation) : 1 < op.name.toList.length := by
  cases op <;> decide

/-- The characters of words are visible ones of ASCII. -/
theorem WordFor.toNat_of_mem (h : WordFor op word) (hc : c ∈ word) :
    33 ≤ c.toNat ∧ c.toNat ≤ 126 := by
  cases h with
  | symbol =>
    obtain rfl := List.mem_singleton.1 hc
    have hrange := op.toNat_symbol
    omega
  | name hletters =>
    have hrange := toNat_of_mem_letters hletters hc
    omega

theorem WordFor.not_isBlank (h : WordFor op word) (hc : c ∈ word) : ¬isBlank c = true :=
  not_isBlank_of_toNat (h.toNat_of_mem hc).1 (h.toNat_of_mem hc).2

theorem WordFor.ne_nil (h : WordFor op word) : word ≠ [] := by
  cases h with
  | symbol => exact List.cons_ne_nil _ _
  | name hletters =>
    have hlength := hletters.length_eq
    have hone := op.one_lt_length_name
    exact List.ne_nil_of_length_pos (by omega)

/-- A symbol is all of a word that it is in. -/
theorem WordFor.eq_of_symbol_mem (h : WordFor op word) {op' : Operation}
    (hmem : op'.symbol ∈ word) : word = [op'.symbol] := by
  cases h with
  | symbol => rw [List.mem_singleton.1 hmem]
  | name hletters =>
    have hrange := toNat_of_mem_letters hletters hmem
    have hsymbol := op'.toNat_symbol
    omega

/-- A single character is a word only if it is a symbol. -/
theorem wordFor_singleton_iff : WordFor op [c] ↔ c = op.symbol := by
  constructor
  · intro h
    cases h with
    | symbol => rfl
    | name hletters =>
      have hlength := hletters.length_eq
      have hone := op.one_lt_length_name
      rw [List.length_singleton] at hlength
      omega
  · rintro rfl
    exact .symbol

/-- Longer words are names. -/
theorem wordFor_iff_of_ne (h : ∀ c, word ≠ [c]) :
    WordFor op word ↔ List.Forall₂ SameLetter word op.name.toList := by
  constructor
  · intro hword
    cases hword with
    | symbol => exact absurd rfl (h op.symbol)
    | name hletters => exact hletters
  · exact .name

end

/-! ### Texts -/

/-- The texts that denote an operation: a word for it between blanks. -/
inductive Denotes (op : Operation) : List Char → Prop
  | intro {before word after : List Char} (before_blank : ∀ c ∈ before, isBlank c = true)
      (word_for : WordFor op word) (after_blank : ∀ c ∈ after, isBlank c = true) :
      Denotes op (before ++ word ++ after)

/-- The texts with a single character between blanks. -/
inductive Sole (c : Char) : List Char → Prop
  | intro {before after : List Char} (before_blank : ∀ b ∈ before, isBlank b = true)
      (not_blank : ¬isBlank c = true) (after_blank : ∀ b ∈ after, isBlank b = true) :
      Sole c (before ++ [c] ++ after)

/-- Ways for a text to denote no operation. -/
inductive Unreadable : List Char → Prop
  /-- There are only blanks in it. -/
  | blank {s : List Char} (all_blank : ∀ c ∈ s, isBlank c = true) : Unreadable s
  /-- A blank stands between other characters. -/
  | innerBlank {before after : List Char} {c : Char} (before_not_blank : ¬before.all isBlank = true)
      (blank : isBlank c = true) (after_not_blank : ¬after.all isBlank = true) :
      Unreadable (before ++ [c] ++ after)
  /-- It has a character that is neither blank nor in ASCII. -/
  | foreign {s : List Char} {c : Char} (mem : c ∈ s) (not_blank : ¬isBlank c = true)
      (not_ascii : 127 < c.toNat) : Unreadable s
  /-- It has a symbol, and another character that is not blank. -/
  | besideSymbol {s : List Char} {op : Operation} (mem : op.symbol ∈ s)
      (another : 1 < s.countP (! isBlank ·)) : Unreadable s

section

variable {s : List Char} {c : Char} {op : Operation}

/-- A text denotes an operation if it is a word for it without the blanks around it. -/
theorem denotes_iff : Denotes op s ↔ WordFor op (trim s) := by
  constructor
  · rintro ⟨hbefore, hword, hafter⟩
    rwa [trim_append hbefore (fun _ ↦ hword.not_isBlank) hword.ne_nil hafter]
  · intro h
    obtain ⟨before, after, hs, hbefore, hafter⟩ := exists_eq_append_trim s
    rw [hs]
    exact .intro hbefore h hafter

/-- A text has a character alone between its blanks if trimming leaves that character. -/
theorem sole_iff : Sole c s ↔ trim s = [c] := by
  constructor
  · rintro ⟨hbefore, hc, hafter⟩
    exact trim_append hbefore (by simpa using hc) (List.cons_ne_nil c []) hafter
  · intro h
    have hc : ¬isBlank c = true := by
      have hne : trim s ≠ [] := by simp [h]
      simpa [h] using not_all_isBlank_trim hne
    obtain ⟨before, after, hs, hbefore, hafter⟩ := exists_eq_append_trim s
    rw [hs, h]
    exact .intro hbefore hc hafter

/-- Of a text that denotes an operation the blanks can be left out. -/
theorem Denotes.wordFor_filter (h : Denotes op s) : WordFor op (s.filter (! isBlank ·)) := by
  obtain @⟨before, word, after, hbefore, hword, hafter⟩ := h
  have hnone : ∀ {t : List Char}, (∀ c ∈ t, isBlank c = true) → t.filter (! isBlank ·) = [] :=
    fun ht ↦ List.filter_eq_nil_iff.2 fun c hc ↦ by simp [ht c hc]
  have hall : word.filter (! isBlank ·) = word :=
    List.filter_eq_self.2 fun c hc ↦ by simpa using hword.not_isBlank hc
  rwa [List.filter_append, List.filter_append, hnone hbefore, hnone hafter, hall, List.nil_append,
    List.append_nil]

/-- An unreadable text denotes nothing. -/
theorem Unreadable.not_denotes (h : Unreadable s) (op : Operation) : ¬Denotes op s := by
  intro hdenotes
  cases h with
  | blank hblank =>
    have hnil := trim_eq_nil_iff.2 (List.all_eq_true.2 hblank)
    exact (denotes_iff.1 hdenotes).ne_nil hnil
  | innerBlank hbefore hblank hafter =>
    have hword := denotes_iff.1 hdenotes
    rw [trim_append_append hbefore hafter] at hword
    exact hword.not_isBlank (by simp) hblank
  | foreign hmem hblank hascii =>
    have hrange := hdenotes.wordFor_filter.toNat_of_mem
      (List.mem_filter.2 ⟨hmem, by simpa using hblank⟩)
    omega
  | @besideSymbol _ op' hmem hanother =>
    have hsymbol : ¬isBlank op'.symbol = true := WordFor.symbol.not_isBlank List.mem_cons_self
    have hword := hdenotes.wordFor_filter.eq_of_symbol_mem
      (List.mem_filter.2 ⟨hmem, by simpa using hsymbol⟩)
    rw [List.countP_eq_length_filter, hword] at hanother
    exact Nat.lt_irrefl 1 hanother

end

/-! ### Reading -/

section

variable {s : String} {op : Operation}

/-- A text with one character between its blanks is taken for a symbol. -/
theorem ofText_of_trim_eq_singleton {c : Char} (h : trim s.toList = [c]) :
    ofText s = ofChar c := by
  rw [ofText, h]

/-- Any other text is taken for a name, and refused as it is. -/
theorem ofText_of_trim_ne_singleton (h : ∀ c, trim s.toList ≠ [c]) :
    ofText s = ((ofName? (trim s.toList)).elim (.error ⟨s⟩) .ok) := by
  rw [ofText]
  split
  · next c hc => exact absurd hc (h c)
  · rcases ofName? (trim s.toList) with - | op <;> rfl

/-- A text is read as the operation that it denotes, on either way. -/
theorem ofText_eq_ok_iff : ofText s = .ok op ↔ Denotes op s.toList := by
  rw [denotes_iff]
  by_cases hsole : ∃ c, trim s.toList = [c]
  · obtain ⟨c, hc⟩ := hsole
    rw [ofText_of_trim_eq_singleton hc, hc, ofChar_eq_ok_iff, wordFor_singleton_iff]
  · rw [not_exists] at hsole
    rw [ofText_of_trim_ne_singleton hsole, wordFor_iff_of_ne hsole, ← ofName?_eq_some_iff]
    rcases ofName? (trim s.toList) with - | op' <;> simp

/-- A refused symbol is reported without its blanks. -/
theorem ofText_of_sole (h : ∀ op, ¬Denotes op s.toList) {c : Char} (hc : Sole c s.toList) :
    ofText s = .error ⟨String.singleton c⟩ := by
  rw [sole_iff] at hc
  have hnone : ofSymbol? c = none := by
    refine Option.eq_none_iff_forall_ne_some.2 fun op hop ↦ h op ?_
    rw [denotes_iff, hc, wordFor_singleton_iff]
    exact ofSymbol?_eq_some_iff.1 hop
  rw [ofText_of_trim_eq_singleton hc, ofChar, hnone]

theorem ofText_of_forall_not_sole (h : ∀ op, ¬Denotes op s.toList)
    (hc : ∀ c, ¬Sole c s.toList) : ofText s = .error ⟨s⟩ := by
  have hne : ∀ c, trim s.toList ≠ [c] := fun c htrim ↦ hc c (sole_iff.2 htrim)
  have hnone : ofName? (trim s.toList) = none := by
    refine Option.eq_none_iff_forall_ne_some.2 fun op hop ↦ h op ?_
    rw [denotes_iff, wordFor_iff_of_ne hne]
    exact ofName?_eq_some_iff.1 hop
  rw [ofText_of_trim_ne_singleton hne, hnone]
  rfl

end

/-- **The reader takes the texts that denote an operation, and no others.** Any other text is
refused, and reported by the one character between its blanks, if there is just one, or else as it
was given. Among the texts that are refused are those that are blank, that have a blank between
other characters or a character beyond ASCII, and those with a symbol that does not stand alone. -/
theorem ofText_exactly_denotes (s : String) :
    (∀ op, ofText s = .ok op ↔ Denotes op s.toList) ∧
      ((∀ op, ¬Denotes op s.toList) →
        (∀ c, Sole c s.toList → ofText s = .error ⟨String.singleton c⟩) ∧
          ((∀ c, ¬Sole c s.toList) → ofText s = .error ⟨s⟩)) ∧
      (Unreadable s.toList → ∀ op, ¬Denotes op s.toList) := by
  refine ⟨fun op ↦ ofText_eq_ok_iff, fun h ↦ ⟨fun c hc ↦ ?_, fun hc ↦ ?_⟩, fun h op ↦ ?_⟩
  · exact ofText_of_sole h hc
  · exact ofText_of_forall_not_sole h hc
  · exact h.not_denotes op

/-- Each name in letters of either case, one of them between blanks of which one is three bytes
long; a single character that is no symbol; a name with a blank inside; and one with a letter whose
lower case is an ASCII letter, but which is none itself. -/
theorem ofText_exactly_denotes_blanks :
    (∀ word ∈ [(sum, "Sum"), (product, "PRODUCT"), (difference, "differencE"),
        (quotient, "\tquOTIENT\u3000")],
      Denotes word.1 word.2.toList ∧ ofText word.2 = .ok word.1) ∧
      (Unreadable " ÷ ".toList ∧ Sole '÷' " ÷ ".toList ∧ ofText " ÷ " = .error ⟨"÷"⟩) ∧
      (Unreadable " su m".toList ∧ ofText " su m" = .error ⟨" su m"⟩) ∧
      Unreadable "d\u0130fference".toList ∧
        ofText "d\u0130fference" = .error ⟨"d\u0130fference"⟩ := by
  have hnames : ∀ word ∈ [(sum, "Sum"), (product, "PRODUCT"), (difference, "differencE"),
      (quotient, "\tquOTIENT\u3000")], ofText word.2 = .ok word.1 := by decide +kernel
  have hdivision : Unreadable " ÷ ".toList :=
    .foreign (c := '÷') (by decide) (by decide) (by decide)
  have hsole : Sole '÷' " ÷ ".toList := sole_iff.2 (by decide)
  have hinner : Unreadable " su m".toList :=
    @Unreadable.innerBlank [' ', 's', 'u'] ['m'] ' ' (by decide) (by decide) (by decide)
  have hletter : Unreadable "d\u0130fference".toList :=
    .foreign (c := '\u0130') (by decide) (by decide) (by decide)
  have hnotSole : ∀ {s : String}, 1 < (trim s.toList).length → ∀ c, ¬Sole c s.toList := by
    intro s hs c hc
    rw [sole_iff.1 hc] at hs
    exact Nat.lt_irrefl 1 hs
  obtain ⟨-, hrefused, hunreadable⟩ := ofText_exactly_denotes " ÷ "
  obtain ⟨-, hrefused', hunreadable'⟩ := ofText_exactly_denotes " su m"
  obtain ⟨-, hrefused'', hunreadable''⟩ := ofText_exactly_denotes "d\u0130fference"
  exact ⟨fun word hword ↦
      ⟨((ofText_exactly_denotes word.2).1 _).1 (hnames word hword), hnames word hword⟩,
    ⟨hdivision, hsole, (hrefused (hunreadable hdivision)).1 _ hsole⟩,
    ⟨hinner, (hrefused' (hunreadable' hinner)).2 (hnotSole (by decide +kernel))⟩,
    hletter, (hrefused'' (hunreadable'' hletter)).2 (hnotSole (by decide +kernel))⟩

end Operation

end StringCalculator
