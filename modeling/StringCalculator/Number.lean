import StringCalculator.Text.Blank

/-!
# Numbers

A number is an integer that fits 64 bits with a sign. It carries its bounds, so every number is in
range by construction, and arithmetic is done on the exact integer: a result becomes a number again
through `Number.ofInt?`, which refuses what does not fit and never wraps.

The second half is the decimal spelling. Reading (`Number.ofToken`) is lenient: blanks around the
digits, a sign and leading zeros are allowed, and a text that spells no number counts as zero.
Writing (`Number.digits`) gives the one shortest spelling.
-/

namespace StringCalculator

/-- An integer of 64 bits with a sign. -/
@[ext]
structure Number where
  /-- The integer itself. -/
  toInt : Int
  /-- No number lies below the least one, minus two to the power of 63. -/
  lower : -9223372036854775808 ≤ toInt
  /-- No number lies above the greatest one, one less than two to the power of 63. -/
  upper : toInt ≤ 9223372036854775807
deriving DecidableEq

namespace Number

/-- The number of an integer, if it is in range. -/
def ofInt? (n : Int) : Option Number :=
  if h : -9223372036854775808 ≤ n ∧ n ≤ 9223372036854775807 then some ⟨n, h.1, h.2⟩ else none

/-- Zero: the value of an empty fold, and of a text that spells no number. -/
def zero : Number :=
  ⟨0, by decide, by decide⟩

/-- One thousand. -/
def thousand : Number :=
  ⟨1000, by decide, by decide⟩

instance : Inhabited Number :=
  ⟨zero⟩

instance : LE Number :=
  ⟨fun m n ↦ m.toInt ≤ n.toInt⟩

instance (m n : Number) : Decidable (m ≤ n) :=
  inferInstanceAs (Decidable (m.toInt ≤ n.toInt))

/-- Whether a number is below zero. -/
def isNegative (n : Number) : Bool :=
  decide (n.toInt < 0)

@[simp]
theorem ofInt?_toInt (n : Number) : ofInt? n.toInt = some n :=
  dif_pos ⟨n.lower, n.upper⟩

/-- An integer has a number exactly when it is in range, and then the number is that integer. -/
theorem ofInt?_eq_some_iff {i : Int} {n : Number} : ofInt? i = some n ↔ n.toInt = i := by
  constructor
  · intro h
    unfold ofInt? at h
    split at h
    · cases h
      rfl
    · cases h
  · rintro rfl
    exact ofInt?_toInt n

/-- The integers that are no numbers are those out of range. -/
theorem ofInt?_eq_none_iff {i : Int} :
    ofInt? i = none ↔ i < -9223372036854775808 ∨ 9223372036854775807 < i := by
  unfold ofInt?
  split
  · simp only [reduceCtorEq, false_iff]
    omega
  · simp only [true_iff]
    omega

/-! ### Decimal spelling -/

/-- The integer that a nonempty run of ASCII digits spells. -/
def magnitude? (s : List Char) : Option Int :=
  if s ≠ [] ∧ s.all Char.isDigit = true then some (Nat.ofDigitChars 10 s 0) else none

/-- The integer that an optional sign and a nonempty run of digits spell, of any size. -/
def signed? : List Char → Option Int
  | '-' :: s => (magnitude? s).map (- ·)
  | '+' :: s => magnitude? s
  | s => magnitude? s

/-- The number that a text spells, without blanks around it. -/
def read? (s : List Char) : Option Number :=
  (signed? s).bind ofInt?

/-- The number that a token stands for: the one it spells between blanks, and zero if it spells
none or one out of range. -/
def ofToken (token : String) : Number :=
  (read? (trim token.toList)).getD zero

/-- The decimal digits of an integer, after a minus sign if it is negative. -/
def decimal (n : Int) : List Char :=
  if n < 0 then '-' :: Nat.toDigits 10 n.natAbs else Nat.toDigits 10 n.natAbs

/-- The shortest spelling of a number. -/
def digits (n : Number) : List Char :=
  decimal n.toInt

/-- The shortest spelling of a number, as text. -/
def toText (n : Number) : String :=
  String.ofList n.digits

/-! ### Reading what was written -/

theorem magnitude?_toDigits (n : Nat) : magnitude? (Nat.toDigits 10 n) = some (n : Int) := by
  have hall : (Nat.toDigits 10 n).all Char.isDigit = true :=
    List.all_eq_true.2 fun c hc ↦ Nat.isDigit_of_mem_toDigits (by decide) (by decide) hc
  simp [magnitude?, hall, Nat.toDigits_ne_nil, Nat.ofDigitChars_ten_toDigits]

/-- A spelling that begins with a digit carries no sign. -/
theorem signed?_of_isDigit {c : Char} {s : List Char} (h : c.isDigit = true) :
    signed? (c :: s) = magnitude? (c :: s) := by
  unfold signed?
  split
  · next heq =>
    cases heq
    exact absurd h (by decide)
  · next heq =>
    cases heq
    exact absurd h (by decide)
  · rfl

theorem signed?_decimal (n : Int) : signed? (decimal n) = some n := by
  unfold decimal
  split
  · next h =>
    simp only [signed?, magnitude?_toDigits, Option.map_some, Option.some.injEq]
    omega
  · next h =>
    obtain ⟨c, s, hcs⟩ : ∃ c s, Nat.toDigits 10 n.natAbs = c :: s :=
      List.exists_cons_of_ne_nil Nat.toDigits_ne_nil
    have hc : c.isDigit = true :=
      Nat.isDigit_of_mem_toDigits (b := 10) (n := n.natAbs) (by decide) (by decide) (by simp [hcs])
    rw [hcs, signed?_of_isDigit hc, ← hcs, magnitude?_toDigits]
    simp only [Option.some.injEq]
    omega

/-- What is written for a number is read as this number. -/
@[simp]
theorem read?_digits (n : Number) : read? n.digits = some n := by
  simp [read?, digits, signed?_decimal]

end Number

end StringCalculator
