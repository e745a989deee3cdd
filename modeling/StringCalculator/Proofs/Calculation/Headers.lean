import StringCalculator.Proofs.Calculation.Basic
import StringCalculator.Proofs.Delimiter.Splitting
import StringCalculator.Proofs.Number

/-!
# Calculations behind a header

What a header does to a calculation. A text that was written down as a row of words with delimiters
between them, behind a header that declares some of the delimiters, is read as those words
(`calculate_attach_bracketed_woven`): the header, the cut and the reading of numbers fit together,
also where delimiters begin with one another.

A header adds its delimiters to the configured ones and does nothing else to its payload, with one
exception. Blank texts are worth zero without being cut, but this is asked of the whole text, which
a header makes not blank. A blank payload is therefore cut. Its pieces are zeros, and zeros fold to
zero, so that nothing shows, unless they are divided by one another. `DividesBlanks` says when that
is, and `value_attach_eq_iff` that it is the only exception.
-/

namespace StringCalculator

namespace Configuration

open Header (attach bracketed declared IsHeaded)
open Delimiter (woven)

/-! ### Words behind a header that declares delimiters -/

/-- **Reading undoes writing.** Words that share no character with a delimiter, written down with
any of the delimiters between them behind a header that declares some, come out as they went in, and
their numbers are all that is refused or folded. -/
theorem calculate_attach_bracketed_woven {c : Configuration} {ds : List String} {first : String}
    {rest : List (String × String)} (hds : ∀ d ∈ ds, Header.Bracketable d)
    (hwords : ∀ w ∈ first :: rest.map Prod.snd,
      w ≠ "" ∧ ∀ d ∈ c.delimiters ++ ds, ∀ a ∈ d.toList, a ∉ w.toList)
    (hseps : ∀ s ∈ rest.map Prod.fst, s ∈ c.delimiters ++ ds ∧ s ≠ "") :
    Header.detach (attach (bracketed ds) (woven first rest)) = ⟨ds, woven first rest⟩ ∧
      Delimiter.pieces (c.delimiters ++ ds) (woven first rest) = first :: rest.map Prod.snd ∧
      c.calculate (attach (bracketed ds) (woven first rest)) =
        let numbers := (first :: rest.map Prod.snd).map Number.ofToken
        (refuseNegatives c.denyNegatives numbers).bind fun _ ↦
          c.operation.foldUpTo c.upperBound numbers := by
  have hfeed := Header.feed_not_mem_bracketed hds
  have hdeclared := Header.declared_bracketed hds
  have hpieces : Delimiter.pieces (c.delimiters ++ ds) (woven first rest) =
      first :: rest.map Prod.snd :=
    Delimiter.pieces_woven (Delimiter.splits_of_disjoint hwords hseps)
  refine ⟨?_, hpieces, ?_⟩
  · rw [Header.detach_attach hfeed, hdeclared]
  · rw [c.calculate_attach hfeed, hdeclared, hpieces, calculateNumbers_eq_bind]

/-- Delimiters that begin with one another, and one with an opening bracket. -/
theorem calculate_attach_bracketed_woven_overlapping :
    (∀ d ∈ ["[", "[,"], Header.Bracketable d) ∧
      (∀ w ∈ ["1", "x", "-2", " 30"],
        w ≠ "" ∧ ∀ d ∈ [",", ",,", "\n"] ++ ["[", "[,"], ∀ a ∈ d.toList, a ∉ w.toList) ∧
      (∀ s ∈ [",,", "[,", "\n"], s ∈ [",", ",,", "\n"] ++ ["[", "[,"] ∧ s ≠ "") ∧
      ({ delimiters := [",", ",,", "\n"] } : Configuration).calculate
        (attach (bracketed ["[", "[,"]) (woven "1" [(",,", "x"), ("[,", "-2"), ("\n", " 30")])) =
        .error (.negatives [Number.ofToken "-2"]) := by
  have hds : ∀ d ∈ ["[", "[,"], Header.Bracketable d := by decide
  have hwords : ∀ w ∈ ["1", "x", "-2", " 30"],
      w ≠ "" ∧ ∀ d ∈ [",", ",,", "\n"] ++ ["[", "[,"], ∀ a ∈ d.toList, a ∉ w.toList := by simp
  have hseps : ∀ s ∈ [",,", "[,", "\n"], s ∈ [",", ",,", "\n"] ++ ["[", "[,"] ∧ s ≠ "" := by decide
  have hread := @calculate_attach_bracketed_woven { delimiters := [",", ",,", "\n"] } ["[", "[,"]
    "1" [(",,", "x"), ("[,", "-2"), ("\n", " 30")] hds hwords hseps
  exact ⟨hds, hwords, hseps, hread.2.2⟩

/-! ### Blank payloads -/

/-- Whether a blank text is cut into several zeros that are divided by one another, if nothing keeps
it from being cut. -/
structure DividesBlanks (c : Configuration) (text : String) : Prop where
  /-- All pieces are blank, so they count as zero. -/
  blank : isBlankText text = true
  /-- A zero is a divisor of a quotient only. -/
  quotient : c.operation = .quotient
  /-- A zero above the bound is left out. -/
  zero_le : Number.zero ≤ c.upperBound
  /-- There are two pieces at least, so one of them is a divisor. -/
  cut : ∃ d ∈ c.delimiters, d ≠ "" ∧ d.toList <:+: text.toList

/-- The numbers of a blank text are zeros, however it is cut. -/
theorem forall_eq_zero_of_isBlankText {ds : List String} {text : String}
    (h : isBlankText text = true) :
    ∀ n ∈ (Delimiter.pieces ds text).map Number.ofToken, n = Number.zero := by
  intro n hn
  obtain ⟨t, ht, rfl⟩ := List.mem_map.1 hn
  refine Number.ofToken_of_isBlankText (List.all_eq_true.2 fun a ha ↦ ?_)
  exact List.all_eq_true.1 h a (Delimiter.mem_of_mem_pieces ht ha)

theorem value_of_isBlankText (c : Configuration) {text : String} (h : isBlankText text = true) :
    c.value text = .ok Number.zero := by
  rw [value, c.calculate_of_isBlankText h]
  rfl

/-- With a header in front of it a blank payload is cut, and only a division of zeros shows it. -/
theorem value_attach_of_isBlankText (c : Configuration) {spec payload : String}
    (hspec : '\n' ∉ spec.toList) (hblank : isBlankText payload = true) :
    ((c.withDeclared spec).DividesBlanks payload →
        c.value (attach spec payload) = .error (.divisionByZero Number.zero)) ∧
      (¬(c.withDeclared spec).DividesBlanks payload →
        c.value (attach spec payload) = .ok Number.zero) := by
  have hcut : 1 < ((Delimiter.pieces (c.delimiters ++ declared spec) payload).map
      Number.ofToken).length ↔
        ∃ d ∈ c.delimiters ++ declared spec, d ≠ "" ∧ d.toList <:+: payload.toList := by
    rw [List.length_map, Delimiter.one_lt_length_pieces_iff]
  rw [value, c.calculate_attach hspec,
    c.value_of_forall_eq_zero (forall_eq_zero_of_isBlankText hblank)]
  refine ⟨fun h ↦ if_pos ⟨h.quotient, h.zero_le, hcut.2 h.cut⟩, fun h ↦ if_neg ?_⟩
  rintro ⟨hquotient, hbound, hlength⟩
  exact h ⟨hblank, hquotient, hbound, hcut.1 hlength⟩

/-- **A header extends the delimiters of its own text**, and that is all it does, unless it leads a
blank payload past the question whether the text is blank: then zeros may be divided. -/
theorem value_attach_eq_iff {c : Configuration} {spec payload : String}
    (hspec : '\n' ∉ spec.toList) (hpayload : ¬IsHeaded payload) :
    (c.value (attach spec payload) = (c.withDeclared spec).value payload ↔
        ¬(c.withDeclared spec).DividesBlanks payload) ∧
      (isBlankText payload = true → (c.value (attach spec payload) = .ok Number.zero ↔
        ¬(c.withDeclared spec).DividesBlanks payload)) ∧
      ((c.withDeclared spec).DividesBlanks payload →
        c.value (attach spec payload) = .error (.divisionByZero Number.zero)) := by
  have hblank : isBlankText payload = true → (c.value (attach spec payload) = .ok Number.zero ↔
      ¬(c.withDeclared spec).DividesBlanks payload) := by
    intro hb
    obtain ⟨herror, hok⟩ := c.value_attach_of_isBlankText hspec hb
    refine ⟨fun h hd ↦ ?_, hok⟩
    rw [herror hd] at h
    cases h
  refine ⟨?_, hblank, fun hd ↦ (c.value_attach_of_isBlankText hspec hd.blank).1 hd⟩
  by_cases hb : isBlankText payload = true
  · rw [(c.withDeclared spec).value_of_isBlankText hb]
    exact hblank hb
  · have hsame : c.value (attach spec payload) = (c.withDeclared spec).value payload := by
      refine value_eq_of_calculate_eq ?_
      rw [c.calculate_attach hspec, (c.withDeclared spec).calculate_of_not_isHeaded hb hpayload]
      exact (c.calculateNumbers_withDelimiters _ _).symm
    exact ⟨fun _ hd ↦ hb hd.blank, fun _ ↦ hsame⟩

/-- Two declared delimiters, of which a quotient is cut at both. -/
theorem value_attach_eq_iff_quotient :
    '\n' ∉ "[*][%]".toList ∧ ¬IsHeaded "20*2%5" ∧
      ({ operation := .quotient } : Configuration).value (attach "[*][%]" "20*2%5") =
        (({ operation := .quotient } : Configuration).withDeclared "[*][%]").value "20*2%5" :=
  ⟨by decide, by decide, (value_attach_eq_iff (by decide) (by decide)).1.2 fun h ↦
    absurd h.blank (by decide)⟩

/-- A line feed alone is worth zero. Behind a header it is a delimiter with nothing on either side,
and a quotient divides zero by zero. -/
theorem value_attach_line_feed_ne :
    '\n' ∉ ";".toList ∧ ¬IsHeaded "\n" ∧
      ({ operation := .quotient } : Configuration).value (attach ";" "\n") =
        .error (.divisionByZero Number.zero) ∧
      (({ operation := .quotient } : Configuration).withDeclared ";").value "\n" =
        .ok Number.zero := by
  have hdivides : (({ operation := .quotient } : Configuration).withDeclared ";").DividesBlanks
      "\n" :=
    ⟨by decide, rfl, by decide, "\n", by decide, by decide, by decide⟩
  exact ⟨by decide, by decide, (value_attach_of_isBlankText _ (by decide) (by decide)).1 hdivides,
    value_of_isBlankText _ (by decide)⟩

end Configuration

end StringCalculator
