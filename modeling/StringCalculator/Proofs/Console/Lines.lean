import StringCalculator.Session

/-!
# Typed lines

What can be typed at a prompt. The escape `\n` stands for a line feed, and nothing stands for the
escape itself. So a line never comes to a text with the escape in it
(`not_holdsEscape_expandChars`), and expanding such a text changes nothing
(`expandChars_of_not_holdsEscape`): a line is expanded once and for all. Every other text can be
typed, by writing its line feeds as escapes (`expandChars_typedChars`).

Both directions turn on the same point. A character stays as it is unless it is a backslash in front
of an `n`, and neither expanding nor typing puts an `n` where there was none
(`head?_of_head?_expandChars`, `head?_of_head?_typedChars`), as they only ever replace a text by one
that begins otherwise. So what is left of a line never joins up with what was replaced.
-/

namespace StringCalculator

/-- Whether a text holds the escape, a backslash with an `n` behind it. -/
def HoldsEscape (s : List Char) : Prop :=
  ['\\', 'n'] <:+: s

instance (s : List Char) : Decidable (HoldsEscape s) :=
  inferInstanceAs (Decidable (_ <:+: _))

/-- A text with the escape for every line feed. -/
def typedChars (s : List Char) : List Char :=
  s.flatMap fun c ↦ if c = '\n' then ['\\', 'n'] else [c]

/-- What to type for a text. -/
def typed (text : String) : String :=
  String.ofList (typedChars text.toList)

section

variable {c : Char} {s : List Char}

/-! ### Where the escape can be -/

/-- The escape is in a text at its beginning or further on. -/
theorem not_holdsEscape_cons_iff :
    ¬HoldsEscape (c :: s) ↔ ¬(c = '\\' ∧ s.head? = some 'n') ∧ ¬HoldsEscape s := by
  have hfront : ['\\', 'n'] <+: c :: s ↔ c = '\\' ∧ s.head? = some 'n' := by
    rw [List.cons_prefix_cons, eq_comm]
    match s with
    | [] => simp
    | d :: s => simp [eq_comm]
  rw [HoldsEscape, List.infix_cons_iff, hfront, not_or]
  rfl

/-! ### Expanding -/

/-- A character that does not begin an escape stays as it is. -/
theorem expandChars_cons (h : ¬(c = '\\' ∧ s.head? = some 'n')) :
    expandChars (c :: s) = c :: expandChars s := by
  rw [expandChars]
  rintro r rfl rfl
  exact h ⟨rfl, rfl⟩

/-- Expanding a text puts no `n` in front of it. -/
theorem head?_of_head?_expandChars (h : (expandChars s).head? = some 'n') :
    s.head? = some 'n' := by
  unfold expandChars at h
  split at h
  · exact absurd h (by simp)
  · exact h
  · exact h

/-- Where there is no escape, there is nothing to expand. -/
theorem expandChars_of_not_holdsEscape (h : ¬HoldsEscape s) : expandChars s = s := by
  induction s with
  | nil => rfl
  | cons c s ih =>
    obtain ⟨hc, hs⟩ := not_holdsEscape_cons_iff.1 h
    rw [expandChars_cons hc, ih hs]

/-- **No escape is left of a line, and none comes up.** -/
theorem not_holdsEscape_expandChars (s : List Char) : ¬HoldsEscape (expandChars s) := by
  fun_induction expandChars s with
  | case1 s ih => exact not_holdsEscape_cons_iff.2 ⟨by simp, ih⟩
  | case2 c s hne ih =>
    refine not_holdsEscape_cons_iff.2 ⟨fun ⟨hc, hn⟩ ↦ ?_, ih⟩
    obtain ⟨r, hr⟩ := List.head?_eq_some_iff.1 (head?_of_head?_expandChars hn)
    exact hne r hc hr
  | case3 => decide

/-! ### Typing -/

theorem typedChars_cons (h : c ≠ '\n') (s : List Char) :
    typedChars (c :: s) = c :: typedChars s := by
  rw [typedChars, List.flatMap_cons, if_neg h]
  rfl

/-- Typing a text puts no `n` in front of it either. -/
theorem head?_of_head?_typedChars (h : (typedChars s).head? = some 'n') :
    s.head? = some 'n' := by
  match s with
  | [] => exact h
  | c :: s =>
    by_cases hc : c = '\n'
    · subst hc
      exact absurd h (by simp [typedChars])
    · rwa [typedChars_cons hc] at h

theorem feed_not_mem_typedChars (s : List Char) : '\n' ∉ typedChars s := by
  intro h
  obtain ⟨c, -, hc⟩ := List.mem_flatMap.1 h
  split at hc
  · exact absurd hc (by decide)
  · next hne => exact hne (List.mem_singleton.1 hc).symm

/-- **What was typed for a text is expanded into it.** -/
theorem expandChars_typedChars (h : ¬HoldsEscape s) : expandChars (typedChars s) = s := by
  induction s with
  | nil => rfl
  | cons c s ih =>
    obtain ⟨hc, hs⟩ := not_holdsEscape_cons_iff.1 h
    by_cases hfeed : c = '\n'
    · subst hfeed
      show '\n' :: expandChars (typedChars s) = '\n' :: s
      rw [ih hs]
    · rw [typedChars_cons hfeed,
        expandChars_cons fun ⟨hb, hn⟩ ↦ hc ⟨hb, head?_of_head?_typedChars hn⟩, ih hs]

end

/-! ### Lines as text -/

theorem expand_typed {text : String} (h : ¬HoldsEscape text.toList) :
    expand (typed text) = text := by
  rw [expand, typed, String.toList_ofList, expandChars_typedChars h, String.ofList_toList]

/-- **What can be typed on a line is every text without the escape.** No line comes to a text that
holds it, so expanding once is enough. Any other text is typed on a single line, with the escape for
each line feed, and this line is calculated as the text itself is, whatever the configuration; so
the reply to it in a session has the outcome of the text. -/
theorem expand_exactly_not_holdsEscape :
    (∀ line, ¬HoldsEscape (expand line).toList ∧ expand (expand line) = expand line) ∧
      ∀ text : String, ¬HoldsEscape text.toList →
        '\n' ∉ (typed text).toList ∧ expand (typed text) = text ∧
          (∀ c : Configuration, c.calculateLine (typed text) = c.calculate text) ∧
          ∀ s : Session,
            s.answer (.line (typed text)) = .reported ⟨s.current.calculate text⟩ := by
  refine ⟨fun line ↦ ?_, fun text h ↦ ?_⟩
  · have hline : ¬HoldsEscape (expand line).toList := by
      rw [expand, String.toList_ofList]
      exact not_holdsEscape_expandChars line.toList
    refine ⟨hline, ?_⟩
    rw [expand.eq_1 (expand line), expandChars_of_not_holdsEscape hline, String.ofList_toList]
  · have hcalculate : ∀ c : Configuration, c.calculateLine (typed text) = c.calculate text := by
      intro c
      rw [Configuration.calculateLine, expand_typed h]
    refine ⟨?_, expand_typed h, hcalculate, fun s ↦ ?_⟩
    · rw [typed, String.toList_ofList]
      exact feed_not_mem_typedChars text.toList
    · rw [Session.answer, Configuration.reply, hcalculate]

/-- A header that declares the backslash, so that a backslash comes in front of a line feed: the
line has two of them, and the second one belongs to the escape. -/
theorem expand_exactly_not_holdsEscape_backslash :
    ¬HoldsEscape "//\\\nn\\1\\2".toList ∧ typed "//\\\nn\\1\\2" = "//\\\\nn\\1\\2" ∧
      expand "//\\\\nn\\1\\2" = "//\\\nn\\1\\2" ∧
      (default : Configuration).calculateLine "//\\\\nn\\1\\2" =
        (default : Configuration).calculate "//\\\nn\\1\\2" := by
  have hescaped : ¬HoldsEscape "//\\\nn\\1\\2".toList := by decide +kernel
  have htyped : typed "//\\\nn\\1\\2" = "//\\\\nn\\1\\2" := by decide +kernel
  obtain ⟨-, hexpand, hcalculate, -⟩ := expand_exactly_not_holdsEscape.2 _ hescaped
  rw [htyped] at hexpand hcalculate
  exact ⟨hescaped, htyped, hexpand, hcalculate _⟩

end StringCalculator
