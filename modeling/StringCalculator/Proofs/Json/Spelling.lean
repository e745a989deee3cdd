import StringCalculator.Proofs.Json.Literals
import StringCalculator.Proofs.Number

/-!
# Spelled tokens

Reading tokens back from their spellings. `Token.Spelled` says what a text made of tokens looks
like: white space may stand between tokens, or nothing, as long as no number literal is followed by
something that would go on with it. Each token is written as one of its literals
(`Token.SpelledAs`); the text it is written as by this library is one of them, and only strings and
decimals have others. Scanning such a text gives its tokens (`Token.Spelled.scan?_eq`), so every
layout of a value is read alike, and every choice of escapes.
-/

namespace StringCalculator.Json

namespace Token

/-! ### Number literals -/

theorem next?_of_isDigit {c : Char} {s : List Char} (h : c.isDigit = true) :
    next? (c :: s) = number? false (c :: s) := by
  unfold next?
  split
  case h_12 => rfl
  all_goals
    next heq =>
    cases heq
    exact absurd h (by decide)

theorem exists_toDigits_eq_cons (n : Nat) :
    ∃ c r, Nat.toDigits 10 n = c :: r ∧ c.isDigit = true := by
  obtain ⟨c, r, hcr⟩ := List.exists_cons_of_ne_nil (Nat.toDigits_ne_nil (n := n) (b := 10))
  have hmem : c ∈ Nat.toDigits 10 n := by simp [hcr]
  exact ⟨c, r, hcr, Nat.isDigit_of_mem_toDigits (by decide) (by decide) hmem⟩

/-- What begins with the digits of a whole number is read as a number. -/
theorem next?_toDigits_append (n : Nat) (s : List Char) :
    next? (Nat.toDigits 10 n ++ s) = number? false (Nat.toDigits 10 n ++ s) := by
  obtain ⟨c, r, hcr, hc⟩ := exists_toDigits_eq_cons n
  rw [hcr, List.cons_append, next?_of_isDigit hc]

/-- What is written for an integer is scanned as this integer. -/
theorem next?_decimal_append (n : Int) {rest : List Char} (hrest : EndsNumber rest) :
    next? (Number.decimal n ++ rest) = some (integer n, rest) := by
  have hnumber := fun minus ↦ number?_append minus n.natAbs .none .none hrest
  simp only [List.nil_append, Bool.false_or] at hnumber
  rw [Number.decimal]
  split
  · next hneg =>
    have hn : -(n.natAbs : Int) = n := by omega
    rw [List.cons_append, next?, hnumber, if_neg (by simp; omega), if_pos rfl, hn]
  · next hneg =>
    have hn : (n.natAbs : Int) = n := by omega
    rw [next?_toDigits_append, hnumber, if_neg (by simp), if_neg Bool.false_ne_true, hn]

/-- A literal of any other number is scanned as a decimal. -/
theorem DecimalLiteral.next?_append {s rest : List Char} (h : DecimalLiteral s)
    (hrest : EndsNumber rest) : next? (s ++ rest) = some (decimal, rest) := by
  match h with
  | .plain n hfraction hexponent present =>
    rw [List.append_assoc, List.append_assoc, next?_toDigits_append,
      number?_append false n hfraction hexponent hrest, if_pos (by simpa using present)]
  | .minus n hfraction hexponent present =>
    rw [List.cons_append, List.append_assoc, List.append_assoc, next?,
      number?_append true n hfraction hexponent hrest, if_pos (by simpa [or_assoc] using present)]

/-! ### Tokens -/

/-- Whether a token is a number literal. -/
def isNumber : Token → Bool
  | integer _ => true
  | decimal => true
  | _ => false

/-- The literals of each token. -/
inductive SpelledAs : Token → List Char → Prop
  /-- Every token may be written in the usual way. -/
  | text (t : Token) : SpelledAs t t.text
  /-- A decimal may be any number that is not written as an integer. -/
  | decimal {s : List Char} (literal : DecimalLiteral s) : SpelledAs decimal s
  /-- A string may be written with other escapes, and it may fail to spell a text. -/
  | string {s : List Char} {us : List Nat} (encodes : Literal.Encodes s us) :
      SpelledAs (string ((Literal.join? us).map String.ofList)) ('"' :: (s ++ ['"']))

/-- A string literal is scanned as the text it spells, if it spells one. -/
theorem next?_string_append {s : List Char} {us : List Nat} (h : Literal.Encodes s us)
    (rest : List Char) :
    next? ('"' :: (s ++ ['"']) ++ rest) =
      some (string ((Literal.join? us).map String.ofList), rest) := by
  rw [List.cons_append, List.append_assoc, List.singleton_append, next?, h.units?_append]

/-- A token is read back from the text it is written as. -/
theorem next?_text_append {t : Token} {rest : List Char}
    (h : t.isNumber = true → EndsNumber rest) : next? (t.text ++ rest) = some (t, rest) := by
  cases t with
  | integer n => exact next?_decimal_append n (h rfl)
  | decimal =>
    have hzero : IsDigits ['0'] := ⟨List.cons_ne_nil '0' [], List.forall_mem_singleton.2 rfl⟩
    exact DecimalLiteral.next?_append (.plain 0 (.point hzero) .none (.inl rfl)) (h rfl)
  | string s =>
    cases s with
    | none => rfl
    | some s =>
      refine (next?_string_append (Literal.encodes_flatMap_escape s.toList) rest).trans ?_
      simp [Literal.join?_map_toNat]
  | bool b => cases b <;> rfl
  | _ => rfl

/-- **A token is read from each of its literals.** -/
theorem SpelledAs.next?_append {t : Token} {s rest : List Char} (h : t.SpelledAs s)
    (hrest : t.isNumber = true → EndsNumber rest) : next? (s ++ rest) = some (t, rest) := by
  cases h with
  | text t => exact next?_text_append hrest
  | decimal literal => exact literal.next?_append (hrest rfl)
  | string encodes => exact next?_string_append encodes rest

theorem isSpace_eq_false_of_isDigit {c : Char} (h : c.isDigit = true) : isSpace c = false := by
  refine Bool.eq_false_iff.2 fun hspace ↦ ?_
  have hc : ((c = ' ' ∨ c = '\t') ∨ c = '\n') ∨ c = '\r' := by simpa [isSpace] using hspace
  obtain ((rfl | rfl) | rfl) | rfl := hc <;> exact absurd h (by decide)

theorem exists_text_eq_cons (t : Token) : ∃ c r, t.text = c :: r ∧ isSpace c = false := by
  cases t with
  | integer n =>
    obtain ⟨c, r, hcr⟩ := List.exists_cons_of_ne_nil (Number.decimal_ne_nil n)
    refine ⟨c, r, hcr, ?_⟩
    have hmem : c ∈ Number.decimal n := by simp [hcr]
    rcases Number.isDigit_or_eq_of_mem_decimal hmem with h | rfl
    · exact isSpace_eq_false_of_isDigit h
    · rfl
  | string s => cases s <;> exact ⟨_, _, rfl, rfl⟩
  | bool b => cases b <;> exact ⟨_, _, rfl, rfl⟩
  | _ => exact ⟨_, _, rfl, rfl⟩

/-- No literal begins with white space. -/
theorem SpelledAs.exists_eq_cons {t : Token} {s : List Char} (h : t.SpelledAs s) :
    ∃ c r, s = c :: r ∧ isSpace c = false := by
  cases h with
  | text t => exact t.exists_text_eq_cons
  | decimal literal =>
    match literal with
    | .plain n _ _ _ =>
      obtain ⟨c, r, hcr, hc⟩ := exists_toDigits_eq_cons n
      rw [hcr, List.cons_append]
      exact ⟨c, _, rfl, isSpace_eq_false_of_isDigit hc⟩
    | .minus _ _ _ _ => exact ⟨_, _, rfl, rfl⟩
  | string _ => exact ⟨_, _, rfl, rfl⟩

/-! ### Texts made of tokens -/

/-- The texts that are made of given tokens, with or without white space between them. -/
inductive Spelled : List Char → List Token → Prop
  /-- Nothing spells no tokens. -/
  | nil : Spelled [] []
  /-- White space may come first. -/
  | space {c : Char} {s : List Char} {ts : List Token} (blank : isSpace c = true)
      (rest : Spelled s ts) : Spelled (c :: s) ts
  /-- A literal of the first token may come first, if it is not gone on with. -/
  | token {t : Token} {a s : List Char} {ts : List Token} (literal : t.SpelledAs a)
      (apart : t.isNumber = true → EndsNumber s) (rest : Spelled s ts) :
      Spelled (a ++ s) (t :: ts)

/-- Spaces in front of a token are passed over. -/
theorem scan?_cons_of_isSpace {c : Char} (hc : isSpace c = true) (s : List Char) :
    scan? (c :: s) = scan? s := by
  rw [scan?.eq_def, scan?.eq_def s, List.dropWhile_cons_of_pos hc]

theorem scan?_cons_of_next?_eq_some {c : Char} {r s : List Char} {t : Token}
    (hc : isSpace c = false) (h : next? (c :: r) = some (t, s)) :
    scan? (c :: r) = (scan? s).map (t :: ·) := by
  rw [scan?, List.dropWhile_cons_of_neg (by simp [hc])]
  split
  · next heq => cases heq
  · next heq =>
    cases heq
    split
    · next h' =>
      rw [h] at h'
      cases h'
      rfl
    · next h' =>
      rw [h] at h'
      cases h'

/-- **A text made of tokens is scanned into them.** -/
theorem Spelled.scan?_eq {s : List Char} {ts : List Token} (h : Spelled s ts) :
    scan? s = some ts := by
  induction h with
  | nil =>
    rw [scan?]
    rfl
  | space blank _ ih => rw [scan?_cons_of_isSpace blank, ih]
  | @token t a s ts literal apart _ ih =>
    obtain ⟨c, r, rfl, hc⟩ := literal.exists_eq_cons
    have hnext := literal.next?_append apart
    rw [List.cons_append] at hnext ⊢
    rw [scan?_cons_of_next?_eq_some hc hnext, ih]
    rfl

end Token

end StringCalculator.Json
