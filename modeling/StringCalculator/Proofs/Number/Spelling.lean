import StringCalculator.Proofs.Folding.Exact
import StringCalculator.Proofs.Number

/-!
# What tokens spell

The spellings of integers, said without the reader. `Spells` puts a sign, any number of zeros and
the digits of an integer between blanks; an integer of any size is spelled this way, and nothing
else spells one. The reader finds the integer that a token spells (`spells_iff`), so a token stands
for a number other than zero exactly if it spells that number (`ofToken_exactly_spelled`).

A run of digits is where the work is: read as an integer, it is the digits of that integer behind
some zeros (`exists_eq_replicate_append_toDigits`). There is no bound on its length, and the range
is asked for only when the integer is known. So a spelling of an integer out of range is read like
any other, and then counts as zero.
-/

namespace StringCalculator

namespace Number

/-! ### Digits -/

theorem toNat_sub_lt_ten {c : Char} (h : c.isDigit = true) : c.toNat - '0'.toNat < 10 := by
  have hrange : c.toNat ≤ 57 := (Char.isDigit_iff_toNat.1 h).2
  show c.toNat - 48 < 10
  omega

theorem digitChar_toNat_sub {c : Char} (h : c.isDigit = true) :
    Nat.digitChar (c.toNat - '0'.toNat) = c := by
  have hrange : 48 ≤ c.toNat := (Char.isDigit_iff_toNat.1 h).1
  refine Char.toNat_inj.1 ?_
  rw [Nat.toNat_digitChar_of_lt_ten (toNat_sub_lt_ten h)]
  show 48 + (c.toNat - 48) = c.toNat
  omega

/-- Behind the digits of a positive integer, more digits give those of what they are read as. -/
theorem toDigits_append_of_pos {n : Nat} (hn : 0 < n) {ds : List Char}
    (hds : ∀ c ∈ ds, c.isDigit = true) :
    Nat.toDigits 10 n ++ ds = Nat.toDigits 10 (Nat.ofDigitChars 10 ds n) := by
  induction ds generalizing n with
  | nil => simp
  | cons c ds ih =>
    have hc : c.isDigit = true := hds c List.mem_cons_self
    have hstep : Nat.toDigits 10 n ++ [c] = Nat.toDigits 10 (10 * n + (c.toNat - '0'.toNat)) := by
      rw [← Nat.toDigits_append_toDigits (by decide) hn (toNat_sub_lt_ten hc),
        Nat.toDigits_of_lt_base (toNat_sub_lt_ten hc), digitChar_toNat_sub hc]
    rw [Nat.ofDigitChars_cons, ← ih (by omega) fun d hd ↦ hds d (List.mem_cons_of_mem c hd),
      ← hstep, List.append_assoc, List.singleton_append]

/-- **A run of digits is the digits of what it is read as, behind some zeros.** -/
theorem exists_eq_replicate_append_toDigits {ds : List Char} (hne : ds ≠ [])
    (hds : ∀ c ∈ ds, c.isDigit = true) :
    ∃ zeros, ds = List.replicate zeros '0' ++ Nat.toDigits 10 (Nat.ofDigitChars 10 ds 0) := by
  induction ds with
  | nil => exact absurd rfl hne
  | cons c ds ih =>
    have hc : c.isDigit = true := hds c List.mem_cons_self
    have hds' : ∀ d ∈ ds, d.isDigit = true := fun d hd ↦ hds d (List.mem_cons_of_mem c hd)
    have hvalue : Nat.ofDigitChars 10 (c :: ds) 0 =
        Nat.ofDigitChars 10 ds (c.toNat - '0'.toNat) := by
      rw [Nat.ofDigitChars_cons, Nat.mul_zero, Nat.zero_add]
    have hdigit : Nat.toDigits 10 (c.toNat - '0'.toNat) = [c] := by
      rw [Nat.toDigits_of_lt_base (toNat_sub_lt_ten hc), digitChar_toNat_sub hc]
    rw [hvalue]
    by_cases hzero : 0 < c.toNat - '0'.toNat
    · refine ⟨0, ?_⟩
      rw [← toDigits_append_of_pos hzero hds', hdigit]
      rfl
    · have hcz : c.toNat - '0'.toNat = 0 := by omega
      obtain rfl : '0' = c := by
        rw [← digitChar_toNat_sub hc, hcz]
        rfl
      match ds, ih with
      | [], _ => exact ⟨0, rfl⟩
      | d :: ds, ih =>
        obtain ⟨zeros, hzeros⟩ := ih (List.cons_ne_nil d ds) hds'
        exact ⟨zeros + 1, congrArg ('0' :: ·) hzeros⟩

theorem isDigit_of_mem_replicate_append_toDigits {zeros n : Nat} {c : Char}
    (h : c ∈ List.replicate zeros '0' ++ Nat.toDigits 10 n) : c.isDigit = true := by
  rcases List.mem_append.1 h with h | h
  · rw [List.eq_of_mem_replicate h]
    rfl
  · exact Nat.isDigit_of_mem_toDigits (by decide) (by decide) h

theorem replicate_append_toDigits_ne_nil (zeros n : Nat) :
    List.replicate zeros '0' ++ Nat.toDigits 10 n ≠ [] :=
  List.append_ne_nil_of_right_ne_nil _ Nat.toDigits_ne_nil

/-- What is read as a magnitude is its digits, with zeros in front of them or not. -/
theorem magnitude?_eq_some_iff {s : List Char} {i : Int} :
    magnitude? s = some i ↔
      ∃ zeros n : Nat, s = List.replicate zeros '0' ++ Nat.toDigits 10 n ∧ i = n := by
  rw [magnitude?]
  constructor
  · intro h
    split at h
    · next hs =>
      obtain ⟨zeros, hzeros⟩ :=
        exists_eq_replicate_append_toDigits hs.1 (List.all_eq_true.1 hs.2)
      exact ⟨zeros, _, hzeros, (Option.some.inj h).symm⟩
    · cases h
  · rintro ⟨zeros, n, rfl, rfl⟩
    rw [if_pos ⟨replicate_append_toDigits_ne_nil zeros n,
      List.all_eq_true.2 fun _ ↦ isDigit_of_mem_replicate_append_toDigits⟩,
      Nat.ofDigitChars_append, Nat.ofDigitChars_replicate_zero, Nat.mul_zero,
      Nat.ofDigitChars_ten_toDigits]

/-! ### Signs -/

/-- The signs an integer may be spelled with. -/
inductive SignOf (i : Int) : List Char → Prop
  /-- A minus sign. -/
  | minus (h : i ≤ 0) : SignOf i ['-']
  /-- A plus sign. -/
  | plus (h : 0 ≤ i) : SignOf i ['+']
  /-- No sign at all. -/
  | none (h : 0 ≤ i) : SignOf i []

theorem SignOf.eq_or_eq {i : Int} {sign : List Char} (h : SignOf i sign) :
    sign = ['-'] ∨ sign = ['+'] ∨ sign = [] := by
  match h with
  | .minus _ => exact .inl rfl
  | .plus _ => exact .inr (.inl rfl)
  | .none _ => exact .inr (.inr rfl)

/-- What is read as an integer is the digits of its magnitude, behind a sign that fits. -/
theorem signed?_eq_some_iff {s : List Char} {i : Int} :
    signed? s = some i ↔
      ∃ (sign : List Char) (zeros : Nat), SignOf i sign ∧
        s = sign ++ (List.replicate zeros '0' ++ Nat.toDigits 10 i.natAbs) := by
  constructor
  · intro h
    unfold signed? at h
    split at h
    · obtain ⟨j, hj, rfl⟩ := Option.map_eq_some_iff.1 h
      obtain ⟨zeros, n, rfl, rfl⟩ := magnitude?_eq_some_iff.1 hj
      exact ⟨['-'], zeros, .minus (by omega), by rw [Int.natAbs_neg]; rfl⟩
    · obtain ⟨zeros, n, rfl, rfl⟩ := magnitude?_eq_some_iff.1 h
      exact ⟨['+'], zeros, .plus (by omega), rfl⟩
    · obtain ⟨zeros, n, rfl, rfl⟩ := magnitude?_eq_some_iff.1 h
      exact ⟨[], zeros, .none (by omega), rfl⟩
  · rintro ⟨sign, zeros, hsign, rfl⟩
    have hmagnitude : magnitude? (List.replicate zeros '0' ++ Nat.toDigits 10 i.natAbs) =
        some (i.natAbs : Int) := magnitude?_eq_some_iff.2 ⟨zeros, _, rfl, rfl⟩
    match hsign with
    | .minus h =>
      show (magnitude? (List.replicate zeros '0' ++ _)).map (- ·) = some i
      rw [hmagnitude]
      exact congrArg some (show -(i.natAbs : Int) = i by omega)
    | .plus h =>
      show magnitude? (List.replicate zeros '0' ++ _) = some i
      rw [hmagnitude]
      exact congrArg some (by omega)
    | .none h =>
      obtain ⟨c, r, hcr⟩ :=
        List.exists_cons_of_ne_nil (replicate_append_toDigits_ne_nil zeros i.natAbs)
      have hc : c.isDigit = true :=
        isDigit_of_mem_replicate_append_toDigits (hcr ▸ List.mem_cons_self)
      rw [List.nil_append, hcr, signed?_of_isDigit hc, ← hcr, hmagnitude]
      exact congrArg some (by omega)

/-! ### Spellings -/

/-- The texts that spell an integer: between blanks, a sign that it may have, any number of zeros,
and its digits. -/
inductive Spells (i : Int) : List Char → Prop
  | intro {before sign after : List Char} (zeros : Nat)
      (before_blank : ∀ c ∈ before, isBlank c = true) (sign_of : SignOf i sign)
      (after_blank : ∀ c ∈ after, isBlank c = true) :
      Spells i
        (before ++ (sign ++ (List.replicate zeros '0' ++ Nat.toDigits 10 i.natAbs)) ++ after)

/-- Reading finds the integer that a text spells, and finds none if it spells none. -/
theorem spells_iff {s : List Char} {i : Int} : Spells i s ↔ signed? (trim s) = some i := by
  rw [signed?_eq_some_iff]
  constructor
  · rintro ⟨zeros, hbefore, hsign, hafter⟩
    refine ⟨_, zeros, hsign, trim_append hbefore (fun c hc ↦ ?_) ?_ hafter⟩
    · rcases List.mem_append.1 hc with hc | hc
      · obtain rfl | rfl | rfl := hsign.eq_or_eq
        · rw [List.mem_singleton.1 hc]
          decide
        · rw [List.mem_singleton.1 hc]
          decide
        · exact absurd hc List.not_mem_nil
      · exact not_isBlank_of_isDigit (isDigit_of_mem_replicate_append_toDigits hc)
    · exact List.append_ne_nil_of_right_ne_nil _ (replicate_append_toDigits_ne_nil zeros _)
  · rintro ⟨sign, zeros, hsign, htrim⟩
    obtain ⟨before, after, hs, hbefore, hafter⟩ := exists_eq_append_trim s
    rw [hs, htrim]
    exact .intro zeros hbefore hsign hafter

/-! ### Texts that spell no integer -/

/-- Whether a character is a sign. -/
def IsSign (c : Char) : Prop :=
  c = '-' ∨ c = '+'

/-- Ways for a text to spell no integer. -/
inductive Malformed : List Char → Prop
  /-- There is no digit in it, as in an empty text or a sign alone. -/
  | noDigit {s : List Char} (h : ∀ c ∈ s, ¬c.isDigit = true) : Malformed s
  /-- There is something else in it, such as a point or a digit of another script. -/
  | foreign {s : List Char} {c : Char} (mem : c ∈ s) (not_blank : ¬isBlank c = true)
      (not_digit : ¬c.isDigit = true) (not_sign : ¬IsSign c) : Malformed s
  /-- A sign stands behind something, a second sign behind the first one for instance. -/
  | lateSign {before after : List Char} {c : Char} (before_not_blank : ¬before.all isBlank = true)
      (sign : IsSign c) : Malformed (before ++ c :: after)
  /-- A blank stands inside. -/
  | innerBlank {before after : List Char} {c : Char}
      (before_not_blank : ¬before.all isBlank = true) (blank : isBlank c = true)
      (after_not_blank : ¬after.all isBlank = true) : Malformed (before ++ c :: after)

section

variable {s before after front sign : List Char} {c : Char} {i : Int}

theorem SignOf.isSign_of_mem (h : SignOf i sign) (hc : c ∈ sign) : IsSign c := by
  obtain rfl | rfl | rfl := h.eq_or_eq
  · exact .inl (List.mem_singleton.1 hc)
  · exact .inr (List.mem_singleton.1 hc)
  · exact absurd hc List.not_mem_nil

/-- A sign is no longer than one character. -/
theorem SignOf.eq_or_prefix (h : SignOf i sign) (hstart : before <+: front ++ sign) :
    before = front ++ sign ∨ before <+: front := by
  obtain rfl | rfl | rfl := h.eq_or_eq
  · exact List.prefix_concat_iff.1 hstart
  · exact List.prefix_concat_iff.1 hstart
  · exact .inr (by simpa using hstart)

theorem not_isDigit_of_isSign (h : IsSign c) : ¬c.isDigit = true := by
  obtain rfl | rfl := h <;> decide

theorem not_isBlank_of_isSign (h : IsSign c) : ¬isBlank c = true := by
  obtain rfl | rfl := h <;> decide

/-- What the characters of a spelling are, whatever the integer. -/
theorem Spells.exists_eq_append (h : Spells i s) :
    ∃ front sign ds back, s = front ++ sign ++ ds ++ back ∧ (∀ c ∈ front, isBlank c = true) ∧
      SignOf i sign ∧ ds ≠ [] ∧ (∀ c ∈ ds, c.isDigit = true) ∧ ∀ c ∈ back, isBlank c = true := by
  obtain ⟨zeros, hfront, hsign, hback⟩ := h
  exact ⟨_, _, _, _, by simp only [List.append_assoc], hfront, hsign,
    replicate_append_toDigits_ne_nil zeros i.natAbs,
    fun _ ↦ isDigit_of_mem_replicate_append_toDigits, hback⟩

/-- There is a digit in every spelling. -/
theorem Spells.exists_isDigit (h : Spells i s) : ∃ c ∈ s, c.isDigit = true := by
  obtain ⟨front, sign, ds, back, rfl, -, -, hne, hds, -⟩ := h.exists_eq_append
  obtain ⟨c, hc⟩ := List.exists_mem_of_ne_nil ds hne
  exact ⟨c, by simp [hc], hds c hc⟩

/-- There is nothing but blanks, digits and signs in a spelling. -/
theorem Spells.of_mem (h : Spells i s) (hc : c ∈ s) :
    isBlank c = true ∨ c.isDigit = true ∨ IsSign c := by
  obtain ⟨front, sign, ds, back, rfl, hfront, hsign, -, hds, hback⟩ := h.exists_eq_append
  simp only [List.mem_append] at hc
  rcases hc with ((hc | hc) | hc) | hc
  · exact .inl (hfront c hc)
  · exact .inr (.inr (hsign.isSign_of_mem hc))
  · exact .inr (.inl (hds c hc))
  · exact .inl (hback c hc)

/-- Behind the first character that is not blank there are only digits, and then only blanks. -/
theorem Spells.isDigit_or_all_isBlank (h : Spells i (before ++ c :: after))
    (hbefore : ¬before.all isBlank = true) :
    c.isDigit = true ∨ (c :: after).all isBlank = true := by
  obtain ⟨front, sign, ds, back, hs, hfront, hsign, -, hds, hback⟩ := h.exists_eq_append
  rw [List.append_assoc] at hs
  obtain ⟨rest, rfl⟩ : front ++ sign <+: before := by
    have hwhole : before <+: front ++ sign ++ (ds ++ back) := ⟨c :: after, hs⟩
    rcases List.prefix_or_prefix_of_prefix hwhole (List.prefix_append _ _) with h | h
    · rcases hsign.eq_or_prefix h with rfl | h
      · exact List.prefix_rfl
      · exact absurd (List.all_eq_true.2 fun d hd ↦ hfront d (h.subset hd)) hbefore
    · exact h
  rw [List.append_assoc, List.append_cancel_left_eq] at hs
  -- what stands behind the sign ends within the digits or within the blanks behind them
  rcases List.append_eq_append_iff.1 hs with ⟨u, hu, hcu⟩ | ⟨u, -, hu⟩
  · match u with
    | [] => exact .inr (List.all_eq_true.2 (hcu ▸ hback))
    | d :: u =>
      obtain rfl : c = d := List.head_eq_of_cons_eq hcu
      exact .inl (hds c (by simp [hu]))
  · exact .inr (List.all_eq_true.2 fun d hd ↦ hback d (hu ▸ List.mem_append_right u hd))

/-- A malformed token spells nothing. -/
theorem Malformed.not_spells (h : Malformed s) (i : Int) : ¬Spells i s := by
  intro hspells
  induction h with
  | noDigit h =>
    obtain ⟨c, hc, hdigit⟩ := hspells.exists_isDigit
    exact h c hc hdigit
  | foreign mem not_blank not_digit not_sign =>
    rcases hspells.of_mem mem with h | h | h
    · exact not_blank h
    · exact not_digit h
    · exact not_sign h
  | lateSign before_not_blank sign =>
    rcases hspells.isDigit_or_all_isBlank before_not_blank with h | h
    · exact not_isDigit_of_isSign sign h
    · exact not_isBlank_of_isSign sign (List.all_eq_true.1 h _ List.mem_cons_self)
  | innerBlank before_not_blank blank after_not_blank =>
    rcases hspells.isDigit_or_all_isBlank before_not_blank with h | h
    · exact not_isBlank_of_isDigit h blank
    · rw [List.all_cons, Bool.and_eq_true] at h
      exact after_not_blank h.2

end

/-! ### Tokens -/

/-- A token stands for the number it spells. -/
theorem ofToken_of_spells {token : String} {n : Number} (h : Spells n.toInt token.toList) :
    ofToken token = n := by
  rw [ofToken, read?, spells_iff.1 h, Option.bind_some, ofInt?_toInt]
  rfl

/-- A token that spells no number stands for zero. -/
theorem ofToken_eq_zero {token : String} (h : ∀ n : Number, ¬Spells n.toInt token.toList) :
    ofToken token = zero := by
  have hread : read? (trim token.toList) = none := by
    refine Option.eq_none_iff_forall_ne_some.2 fun n hn ↦ ?_
    obtain ⟨i, hi, hin⟩ := Option.bind_eq_some_iff.1 hn
    rw [← spells_iff, ← ofInt?_eq_some_iff.1 hin] at hi
    exact h n hi
  rw [ofToken, hread]
  rfl

/-- A text spells one integer at most. -/
theorem Spells.unique {s : List Char} {i j : Int} (hi : Spells i s) (hj : Spells j s) : i = j :=
  Option.some.inj ((spells_iff.1 hi).symm.trans (spells_iff.1 hj))

/-- **A token stands for the number it spells, and for zero if it spells none.** A number other than
zero is what a token stands for exactly if the token spells it. Every other token stands for zero:
one that spells zero itself, or an integer that is too small or too large to be a number, or is
malformed in any way. -/
theorem ofToken_exactly_spelled (token : String) :
    (∀ n : Number, n ≠ zero → (ofToken token = n ↔ Spells n.toInt token.toList)) ∧
      ((∀ n : Number, n ≠ zero → ¬Spells n.toInt token.toList) → ofToken token = zero) ∧
      (Spells 0 token.toList → ofToken token = zero) ∧
      (∀ i, Spells i token.toList → ¬InRange i → ofToken token = zero) ∧
      (Malformed token.toList → ofToken token = zero) := by
  have hzero : Spells 0 token.toList → ofToken token = zero := ofToken_of_spells (n := zero)
  have hothers : (∀ n : Number, n ≠ zero → ¬Spells n.toInt token.toList) →
      ofToken token = zero := by
    intro h
    by_cases h0 : Spells 0 token.toList
    · exact hzero h0
    · refine ofToken_eq_zero fun n hn ↦ ?_
      by_cases hne : n = zero
      · subst hne
        exact h0 hn
      · exact h n hne hn
  refine ⟨fun n hn ↦ ⟨fun h ↦ ?_, ofToken_of_spells⟩, hothers, hzero, fun i hi hrange ↦ ?_,
    fun h ↦ ofToken_eq_zero fun n ↦ h.not_spells n.toInt⟩
  · subst h
    by_contra hspells
    refine hn (ofToken_eq_zero fun m hm ↦ ?_)
    rw [ofToken_of_spells hm] at hspells
    exact hspells hm
  · refine ofToken_eq_zero fun n hn ↦ hrange ?_
    rw [hi.unique hn]
    exact n.inRange_toInt

/-- The least number, with a wide blank and zeros in front of its digits and a tab behind them. Its
absolute value is no number, and two signs spell none. -/
theorem ofToken_exactly_spelled_least :
    (Spells (-9223372036854775808) "\u3000-009223372036854775808\t".toList ∧
        ofToken "\u3000-009223372036854775808\t" =
          ⟨-9223372036854775808, by decide, by decide⟩) ∧
      (Spells 9223372036854775808 "+9223372036854775808".toList ∧
        ofToken "+9223372036854775808" = zero) ∧
      Malformed "--5".toList ∧ ofToken "--5" = zero := by
  have hleast : Spells (-9223372036854775808) "\u3000-009223372036854775808\t".toList :=
    spells_iff.2 (by decide +kernel)
  have hlarge : Spells 9223372036854775808 "+9223372036854775808".toList :=
    spells_iff.2 (by decide +kernel)
  have hsigns : Malformed "--5".toList :=
    @Malformed.lateSign ['-'] ['5'] '-' (by decide) (.inl rfl)
  exact ⟨⟨hleast, ((ofToken_exactly_spelled _).1 ⟨_, by decide, by decide⟩ (by decide)).2 hleast⟩,
    ⟨hlarge, (ofToken_exactly_spelled _).2.2.2.1 _ hlarge (by decide)⟩,
    hsigns, (ofToken_exactly_spelled _).2.2.2.2 hsigns⟩

end Number

end StringCalculator
