import Mathlib.Tactic.SplitIfs
import StringCalculator.Json.Token

/-!
# Literals

What string and number literals look like, and that the reader takes each of them whole and stops
behind it.

A string literal is made of characters, each written as it is or as an escape (`Escaped`), and of
bare code units, which may be halves of surrogate pairs (`Literal.Encodes`). Codes of characters are
never halves of pairs, so nothing is joined that was written apart.

A number literal is a whole number without leading zeros, and then perhaps a fraction and an
exponent (`Fraction`, `Exponent`). Its parts end where the next one begins: a run of digits has to
be followed by something else than a digit (`EndsDigits`), the literal by nothing that would go on
with it (`EndsNumber`).
-/

namespace StringCalculator.Json

/-! ### String literals -/

namespace Literal

/-- Four hexadecimal digits are read as the control character they stand for. -/
theorem unit?_hexDigit {n : Nat} (h : n < 32) :
    unit? '0' '0' (hexDigit (n / 16)) (hexDigit n) = some n := by
  decide +revert

/-- The ways a character may be written inside a literal. -/
inductive Escaped (c : Char) : List Char → Prop
  /-- A backslash and one letter. -/
  | short {e : Char} (reads : shortEscape? e = some c) : Escaped c ['\\', e]
  /-- Four hexadecimal digits. -/
  | code (control : c.toNat < 32) :
      Escaped c ['\\', 'u', '0', '0', hexDigit (c.toNat / 16), hexDigit c.toNat]
  /-- The character itself. -/
  | plain (quote : c ≠ '"') (backslash : c ≠ '\\') (control : ¬c < ' ') : Escaped c [c]

/-- What is written for a character is one of the ways to write it. -/
theorem escaped_escape (c : Char) : Escaped c (escape c) := by
  rw [escape]
  split_ifs with hquote hbackslash hback hform hfeed hreturn htab hcontrol
  · exact .short (by rw [hquote]; rfl)
  · exact .short (by rw [hbackslash]; rfl)
  · exact .short (by rw [hback]; rfl)
  · exact .short (by rw [hform]; rfl)
  · exact .short (by rw [hfeed]; rfl)
  · exact .short (by rw [hreturn]; rfl)
  · exact .short (by rw [htab]; rfl)
  · exact .code hcontrol
  · exact .plain hquote hbackslash hcontrol

/-- A character that was written into a literal is read back as its code. -/
theorem Escaped.units?_append {c : Char} {t r rest : List Char} {us : List Nat} (hc : Escaped c t)
    (h : units? r = some (us, rest)) : units? (t ++ r) = some (c.toNat :: us, rest) := by
  cases hc with
  | @short e reads =>
    have hu : e ≠ 'u' := by
      rintro rfl
      cases reads
    rw [List.cons_append, List.singleton_append, units?]
    · simp [reads, h]
    · rintro _ _ _ _ _ rfl
      exact absurd rfl hu
  | code control => simp [units?, unit?_hexDigit control, h]
  | plain quote backslash control =>
    rw [List.singleton_append, units?]
    · simp [h, backslash, control]
    · exact quote
    · rintro _ _ _ _ _ rfl
      exact absurd rfl backslash
    · rintro _ _ rfl
      exact absurd rfl backslash

/-- The texts that may stand between the quotes of a literal, with the code units they spell. -/
inductive Encodes : List Char → List Nat → Prop
  /-- There may be nothing between the quotes. -/
  | nil : Encodes [] []
  /-- A character may come first. -/
  | char {c : Char} {t s : List Char} {us : List Nat} (escaped : Escaped c t)
      (rest : Encodes s us) : Encodes (t ++ s) (c.toNat :: us)
  /-- Any code unit may come first, by its hexadecimal digits. -/
  | unit {a b c d : Char} {u : Nat} {s : List Char} {us : List Nat}
      (reads : unit? a b c d = some u) (rest : Encodes s us) :
      Encodes ('\\' :: 'u' :: a :: b :: c :: d :: s) (u :: us)

/-- What stands between the quotes is read up to the closing one. -/
theorem Encodes.units?_append {s : List Char} {us : List Nat} (h : Encodes s us)
    (r : List Char) : units? (s ++ '"' :: r) = some (us, r) := by
  induction h with
  | nil => simp [units?]
  | char escaped _ ih =>
    rw [List.append_assoc]
    exact escaped.units?_append ih
  | unit reads _ ih => simp [units?, reads, ih]

/-- What is written for a text is one of the ways to write it. -/
theorem encodes_flatMap_escape (s : List Char) :
    Encodes (s.flatMap escape) (s.map Char.toNat) := by
  induction s with
  | nil => exact .nil
  | cons c s ih =>
    rw [List.flatMap_cons, List.map_cons]
    exact .char (escaped_escape c) ih

/-- No character is half of a surrogate pair. -/
theorem not_surrogate_toNat (c : Char) :
    isLeading c.toNat = false ∧ isTrailing c.toNat = false := by
  have hvalid := c.valid
  rw [UInt32.isValidChar, Nat.isValidChar] at hvalid
  have hval : c.toNat = c.val.toNat := rfl
  simp only [isLeading, isTrailing, Bool.and_eq_false_iff, decide_eq_false_iff_not, hval]
  omega

/-- Codes of characters are no halves of pairs, so there is nothing to join. -/
theorem join?_map_toNat (s : List Char) : join? (s.map Char.toNat) = some s := by
  induction s with
  | nil => rfl
  | cons c s ih =>
    obtain ⟨hleading, htrailing⟩ := not_surrogate_toNat c
    unfold join?
    simp [hleading, htrailing, ih]

end Literal

/-! ### Where number literals end -/

/-- Whether a text may stand behind a run of digits without going on with it. -/
def EndsDigits (s : List Char) : Prop :=
  ∀ c ∈ s.head?, ¬c.isDigit = true

/-- Whether a text may stand behind a number literal without going on with it. -/
def EndsNumber (s : List Char) : Prop :=
  ∀ c ∈ s.head?, ¬c.isDigit = true ∧ c ≠ '.' ∧ c ≠ 'e' ∧ c ≠ 'E'

theorem endsNumber_cons {c : Char} (h : ¬c.isDigit = true ∧ c ≠ '.' ∧ c ≠ 'e' ∧ c ≠ 'E')
    (s : List Char) : EndsNumber (c :: s) := by
  intro d hd
  obtain rfl : c = d := by simpa using hd
  exact h

theorem endsDigits_cons {c : Char} (h : ¬c.isDigit = true) (s : List Char) :
    EndsDigits (c :: s) := by
  intro d hd
  obtain rfl : c = d := by simpa using hd
  exact h

theorem EndsNumber.endsDigits {s : List Char} (h : EndsNumber s) : EndsDigits s :=
  fun c hc ↦ (h c hc).1

namespace Token

/-! ### Whole numbers -/

section

variable {ds rest : List Char}

/-- A positive number is written without leading zeros. -/
theorem head?_toDigits_ne {n : Nat} (h : n ≠ 0) : (Nat.toDigits 10 n).head? ≠ some '0' := by
  induction n using Nat.strongRecOn with
  | ind n ih =>
    by_cases hlt : n < 10
    · rw [Nat.toDigits_of_lt_base hlt]
      simpa using h
    · rw [Nat.toDigits_of_base_le (by decide) (by omega), List.head?_append,
        Option.or_of_isSome (by simp [Nat.toDigits_ne_nil])]
      exact ih (n / 10) (by omega) (by omega)

theorem takeWhile_isDigit_append (hds : ∀ c ∈ ds, c.isDigit = true) (hrest : EndsDigits rest) :
    (ds ++ rest).takeWhile Char.isDigit = ds := by
  rw [List.takeWhile_append_of_pos hds]
  rcases rest with - | ⟨c, r⟩
  · simp
  · simp [hrest c rfl]

theorem dropWhile_isDigit_append (hds : ∀ c ∈ ds, c.isDigit = true) (hrest : EndsDigits rest) :
    (ds ++ rest).dropWhile Char.isDigit = rest := by
  rw [List.dropWhile_append_of_pos hds]
  rcases rest with - | ⟨c, r⟩
  · simp
  · simp [hrest c rfl]

/-- The digits of a number are read as this number. -/
theorem whole?_toDigits_append (n : Nat) (hrest : EndsDigits rest) :
    whole? (Nat.toDigits 10 n ++ rest) = some (n, rest) := by
  have hdigits : ∀ c ∈ Nat.toDigits 10 n, c.isDigit = true := fun c hc ↦
    Nat.isDigit_of_mem_toDigits (by decide) (by decide) hc
  by_cases hn : n = 0
  · subst hn
    rfl
  · obtain ⟨c, s, hcs⟩ := List.exists_cons_of_ne_nil (Nat.toDigits_ne_nil (n := n) (b := 10))
    have hc : c ≠ '0' := by simpa [hcs] using head?_toDigits_ne hn
    rw [whole?]
    · simp [takeWhile_isDigit_append hdigits hrest, dropWhile_isDigit_append hdigits hrest,
        Nat.toDigits_ne_nil, Nat.ofDigitChars_ten_toDigits]
    · intro r hr
      rw [hcs, List.cons_append, List.cons.injEq] at hr
      exact hc hr.1

/-! ### Fractions and exponents -/

/-- A nonempty run of digits. -/
def IsDigits (ds : List Char) : Prop :=
  ds ≠ [] ∧ ∀ c ∈ ds, c.isDigit = true

/-- The fraction of a number literal, and whether there is one. -/
inductive Fraction : Bool → List Char → Prop
  /-- There may be none. -/
  | none : Fraction false []
  /-- A point, and digits behind it. -/
  | point {digits : List Char} (spelled : IsDigits digits) : Fraction true ('.' :: digits)

/-- The exponent of a number literal, and whether there is one. -/
inductive Exponent : Bool → List Char → Prop
  /-- There may be none. -/
  | none : Exponent false []
  /-- A letter, perhaps a sign, and digits behind them. -/
  | letter {e : Char} {sign digits : List Char} (either : e = 'e' ∨ e = 'E')
      (signed : sign = [] ∨ sign = ['+'] ∨ sign = ['-']) (spelled : IsDigits digits) :
      Exponent true (e :: (sign ++ digits))

theorem afterDigits?_append (hds : IsDigits ds) (hrest : EndsDigits rest) :
    afterDigits? (ds ++ rest) = some rest := by
  rw [afterDigits?, takeWhile_isDigit_append hds.2 hrest, dropWhile_isDigit_append hds.2 hrest]
  simp [hds.1]

/-- Digits are left alone where a sign might stand. -/
theorem dropSign_append_of_isDigits (hds : IsDigits ds) (rest : List Char) :
    dropSign (ds ++ rest) = ds ++ rest := by
  obtain ⟨c, s, rfl⟩ := List.exists_cons_of_ne_nil hds.1
  have hc : c.isDigit = true := hds.2 c List.mem_cons_self
  rw [List.cons_append, dropSign]
  · rintro _ ⟨rfl, -⟩
    exact absurd hc (by decide)
  · rintro _ ⟨rfl, -⟩
    exact absurd hc (by decide)

theorem afterDigits?_dropSign_append {sign : List Char}
    (hsign : sign = [] ∨ sign = ['+'] ∨ sign = ['-']) (hds : IsDigits ds)
    (hrest : EndsDigits rest) : afterDigits? (dropSign (sign ++ ds ++ rest)) = some rest := by
  have hdrop : dropSign (sign ++ ds ++ rest) = ds ++ rest := by
    obtain rfl | rfl | rfl := hsign
    · exact dropSign_append_of_isDigits hds rest
    · rfl
    · rfl
  rw [hdrop, afterDigits?_append hds hrest]

/-- A fraction is read up to its end. -/
theorem Fraction.fraction?_append {b : Bool} {s : List Char} (h : Fraction b s)
    (hrest : EndsDigits rest) (hpoint : rest.head? ≠ some '.') :
    fraction? (s ++ rest) = some (b, rest) := by
  match h with
  | .none =>
    rw [List.nil_append, fraction?]
    rintro r rfl
    exact hpoint rfl
  | .point hds =>
    rw [List.cons_append, fraction?, afterDigits?_append hds hrest]
    rfl

/-- An exponent is read up to its end. -/
theorem Exponent.exponent?_append {b : Bool} {s : List Char} (h : Exponent b s)
    (hrest : EndsNumber rest) : exponent? (s ++ rest) = some (b, rest) := by
  match h with
  | .none =>
    rw [List.nil_append, exponent?]
    · rintro r rfl
      exact (hrest 'e' rfl).2.2.1 rfl
    · rintro r rfl
      exact (hrest 'E' rfl).2.2.2 rfl
  | .letter hletter hsign hds =>
    have hafter := afterDigits?_dropSign_append hsign hds hrest.endsDigits
    obtain rfl | rfl := hletter <;>
      · rw [List.cons_append, exponent?, hafter]
        rfl

theorem Exponent.ends_append {b : Bool} {s : List Char} (h : Exponent b s)
    (hrest : EndsNumber rest) :
    EndsDigits (s ++ rest) ∧ (s ++ rest).head? ≠ some '.' := by
  match h with
  | .none => exact ⟨hrest.endsDigits, fun h ↦ (hrest '.' h).2.1 rfl⟩
  | .letter hletter _ _ =>
    obtain rfl | rfl := hletter <;> exact ⟨endsDigits_cons (by decide) _, by simp⟩

theorem Fraction.endsDigits_append {b : Bool} {s : List Char} (h : Fraction b s)
    (hrest : EndsDigits rest) : EndsDigits (s ++ rest) := by
  match h with
  | .none => exact hrest
  | .point _ => exact endsDigits_cons (by decide) _

/-! ### Number literals -/

/-- **A number literal is read as a whole**, part by part. -/
theorem number?_append (minus : Bool) (n : Nat) {hasFraction hasExponent : Bool}
    {fraction exponent : List Char} (hfraction : Fraction hasFraction fraction)
    (hexponent : Exponent hasExponent exponent) (hrest : EndsNumber rest) :
    number? minus (Nat.toDigits 10 n ++ (fraction ++ (exponent ++ rest))) =
      some (if hasFraction || hasExponent || (minus && n == 0) then decimal
        else integer (if minus then -(n : Int) else n), rest) := by
  obtain ⟨hdigits, hpoint⟩ := hexponent.ends_append hrest
  rw [number?, whole?_toDigits_append n (hfraction.endsDigits_append hdigits)]
  simp only [hfraction.fraction?_append hdigits hpoint, hexponent.exponent?_append hrest]
  split <;> rfl

/-- The literals of numbers that are not written as integers. -/
inductive DecimalLiteral : List Char → Prop
  /-- A fraction, an exponent, or both, behind a whole number. -/
  | plain (n : Nat) {hasFraction hasExponent : Bool} {fraction exponent : List Char}
      (fraction_spelled : Fraction hasFraction fraction)
      (exponent_spelled : Exponent hasExponent exponent)
      (present : hasFraction = true ∨ hasExponent = true) :
      DecimalLiteral (Nat.toDigits 10 n ++ (fraction ++ exponent))
  /-- The same behind a minus sign, where zero alone will do. -/
  | minus (n : Nat) {hasFraction hasExponent : Bool} {fraction exponent : List Char}
      (fraction_spelled : Fraction hasFraction fraction)
      (exponent_spelled : Exponent hasExponent exponent)
      (present : hasFraction = true ∨ hasExponent = true ∨ n = 0) :
      DecimalLiteral ('-' :: (Nat.toDigits 10 n ++ (fraction ++ exponent)))

end

end Token

end StringCalculator.Json
