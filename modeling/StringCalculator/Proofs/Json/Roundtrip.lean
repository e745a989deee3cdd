import StringCalculator.Json.Printer
import StringCalculator.Json.Reader
import StringCalculator.Proofs.Json.Spelling

/-!
# Values read back

A value is read back from every text it is written as (`ofText?_compact`, `ofText?_wide`), and from
every other text that spells its tokens (`ofText?_of_spelled`). The way back has two halves that do
not know of each other. The machine, given the tokens of a value, delivers that value to whatever is
open around it (`Reading.completes`). And a layout of a value spells its tokens (`Prints`), whatever
stands behind it; this is where the compact form and the wide form differ, and the only place.

Values nest in lists, so both halves go by `Json.induction`: what holds of a container may be shown
from what holds of each value in it.
-/

namespace StringCalculator.Json

/-- To show something of every value, show it of containers whose values have it. -/
@[elab_as_elim]
theorem induction {motive : Json → Prop} (null : motive null) (bool : ∀ b, motive (bool b))
    (integer : ∀ n, motive (integer n)) (decimal : motive decimal)
    (string : ∀ s, motive (string s))
    (array : ∀ elements, (∀ v ∈ elements, motive v) → motive (array elements))
    (object : ∀ members, (∀ m ∈ members, motive m.2) → motive (object members)) (v : Json) :
    motive v :=
  match v with
  | .null => null
  | .bool b => bool b
  | .integer n => integer n
  | .decimal => decimal
  | .string s => string s
  | .array elements => array elements fun w _ ↦
      induction null bool integer decimal string array object w
  | .object members => object members fun m _ ↦
      induction null bool integer decimal string array object m.2
termination_by sizeOf v
decreasing_by
  · have helement := List.sizeOf_lt_of_mem ‹_ ∈ elements›
    simp only [Json.array.sizeOf_spec]
    omega
  · have hmember := List.sizeOf_lt_of_mem ‹_ ∈ members›
    have hvalue : sizeOf m.2 < sizeOf m := by
      cases m
      simp only [Prod.mk.sizeOf_spec]
      omega
    simp only [Json.object.sizeOf_spec]
    omega

/-! ### From tokens to values -/

namespace Reading

/-- Whether the tokens of a value are read as that value, whatever is open around it and whatever
comes behind it. -/
def Completes (v : Json) : Prop :=
  ∀ frames rest,
    (tokens v ++ rest).foldlM step? (value frames) = rest.foldlM step? (deliver v frames)

theorem foldlM_step?_cons {s s' : Reading} {t : Token} (h : step? s t = some s')
    (ts : List Token) : (t :: ts).foldlM step? s = ts.foldlM step? s' := by
  rw [List.foldlM_cons, h]
  rfl

/-- The elements of an array are read one by one, behind those that have been read. -/
theorem foldlM_step?_elementTokens {vs : List Json} (h : ∀ v ∈ vs, Completes v) (hne : vs ≠ [])
    (before : List Json) (frames : List Frame) (rest : List Token) :
    (elementTokens vs ++ .closeArray :: rest).foldlM step? (value (.elements before :: frames)) =
      rest.foldlM step? (deliver (.array (before.reverse ++ vs)) frames) := by
  induction vs generalizing before with
  | nil => exact absurd rfl hne
  | cons v vs ih =>
    have hv := h v List.mem_cons_self
    cases vs with
    | nil => rw [elementTokens, hv, deliver, foldlM_step?_cons rfl, List.reverse_cons]
    | cons w vs =>
      rw [elementTokens, List.append_assoc, hv, deliver, List.cons_append, foldlM_step?_cons rfl,
        ih (fun u hu ↦ h u (List.mem_cons_of_mem v hu)) (List.cons_ne_nil w vs),
        List.reverse_cons, List.append_assoc, List.singleton_append]

/-- The members of an object are read one by one, behind those that have been read. -/
theorem foldlM_step?_memberTokens {ms : List (Option String × Json)}
    (h : ∀ m ∈ ms, Completes m.2) (hne : ms ≠ []) (before : List (Option String × Json))
    (frames : List Frame) (rest : List Token) :
    (memberTokens ms ++ .closeObject :: rest).foldlM step? (laterName before frames) =
      rest.foldlM step? (deliver (.object (before.reverse ++ ms)) frames) := by
  induction ms generalizing before with
  | nil => exact absurd rfl hne
  | cons m ms ih =>
    obtain ⟨name, v⟩ := m
    have hv : Completes v := h (name, v) List.mem_cons_self
    cases ms with
    | nil =>
      rw [memberTokens, List.cons_append, List.cons_append, foldlM_step?_cons rfl,
        foldlM_step?_cons rfl, hv, deliver, foldlM_step?_cons rfl, List.reverse_cons]
    | cons m ms =>
      rw [memberTokens, List.cons_append, List.cons_append, List.cons_append, List.cons_append,
        foldlM_step?_cons rfl, foldlM_step?_cons rfl, List.append_assoc, hv, deliver,
        List.cons_append, foldlM_step?_cons rfl,
        ih (fun u hu ↦ h u (List.mem_cons_of_mem _ hu)) (List.cons_ne_nil m ms),
        List.reverse_cons, List.append_assoc, List.singleton_append]

/-- An element does not begin like the end of its array. -/
theorem exists_elementTokens_eq_cons (v : Json) (vs : List Json) :
    ∃ t ts, elementTokens (v :: vs) = t :: ts ∧ t ≠ .closeArray := by
  obtain ⟨t, ts, hts, ht⟩ : ∃ t ts, tokens v = t :: ts ∧ t ≠ .closeArray := by
    cases v <;> exact ⟨_, _, rfl, nofun⟩
  cases vs with
  | nil => exact ⟨t, ts, hts, ht⟩
  | cons w vs => exact ⟨t, _, by rw [elementTokens, hts, List.cons_append], ht⟩

theorem exists_memberTokens_eq_cons (m : Option String × Json)
    (ms : List (Option String × Json)) : ∃ ts, memberTokens (m :: ms) = .string m.1 :: ts := by
  obtain ⟨name, v⟩ := m
  cases ms <;> exact ⟨_, rfl⟩

/-- Where the first element of an array may begin, every token but the end of the array is the
beginning of a value. -/
theorem step?_firstElement_of_ne {t : Token} (h : t ≠ .closeArray) (frames : List Frame) :
    step? (firstElement frames) t = step? (value (.elements [] :: frames)) t := by
  cases t with
  | closeArray => exact absurd rfl h
  | _ => rfl

/-- **The machine reads a value from its tokens.** -/
theorem completes (v : Json) : Completes v := by
  induction v using Json.induction with
  | array elements ih =>
    intro frames rest
    rw [tokens, List.append_assoc, List.cons_append, foldlM_step?_cons rfl, List.singleton_append]
    cases elements with
    | nil => exact foldlM_step?_cons rfl rest
    | cons v vs =>
      -- what may come first in an array is what may come later, except for its end
      have hfirst : (elementTokens (v :: vs) ++ .closeArray :: rest).foldlM step?
          (firstElement frames) =
            (elementTokens (v :: vs) ++ .closeArray :: rest).foldlM step?
              (value (.elements [] :: frames)) := by
        obtain ⟨t, ts, hts, ht⟩ := exists_elementTokens_eq_cons v vs
        rw [hts, List.cons_append, List.foldlM_cons, step?_firstElement_of_ne ht, List.foldlM_cons]
      rw [hfirst, foldlM_step?_elementTokens ih (List.cons_ne_nil v vs)]
      rfl
  | object members ih =>
    intro frames rest
    rw [tokens, List.append_assoc, List.cons_append, foldlM_step?_cons rfl, List.singleton_append]
    cases members with
    | nil => exact foldlM_step?_cons rfl rest
    | cons m ms =>
      have hfirst : (memberTokens (m :: ms) ++ .closeObject :: rest).foldlM step?
          (firstName frames) =
            (memberTokens (m :: ms) ++ .closeObject :: rest).foldlM step?
              (laterName [] frames) := by
        obtain ⟨ts, hts⟩ := exists_memberTokens_eq_cons m ms
        rw [hts]
        rfl
      rw [hfirst, foldlM_step?_memberTokens ih (List.cons_ne_nil m ms)]
      rfl
  | _ => exact fun _ rest ↦ foldlM_step?_cons rfl rest

end Reading

/-- The tokens of a value are read as this value. -/
theorem ofTokens?_tokens (v : Json) : ofTokens? (tokens v) = some v := by
  have hcompletes := Reading.completes v [] []
  rw [List.append_nil] at hcompletes
  rw [ofTokens?, hcompletes]
  rfl

/-! ### From texts to tokens -/

/-- Whether a text spells given tokens in front of any text that does not go on with a number. -/
def Prints (text : List Char) (ts : List Token) : Prop :=
  ∀ s us, EndsNumber s → Token.Spelled s us → Token.Spelled (text ++ s) (ts ++ us)

namespace Prints

variable {a b : List Char} {ts us : List Token}

theorem nil : Prints [] [] :=
  fun _ _ _ h ↦ h

theorem text (t : Token) : Prints t.text [t] :=
  fun _ _ hs h ↦ .token (.text t) (fun _ ↦ hs) h

theorem space {c : Char} (hc : Token.isSpace c = true) (h : Prints a ts) : Prints (c :: a) ts :=
  fun s vs hs hspelled ↦ .space hc (h s vs hs hspelled)

/-- Behind a token that is no number anything may stand. -/
theorem token {t : Token} (ht : t.isNumber = false) (h : Prints a ts) :
    Prints (t.text ++ a) (t :: ts) := by
  intro s vs hs hspelled
  rw [List.append_assoc]
  exact .token (.text t) (fun hnumber ↦ absurd hnumber (by simp [ht])) (h s vs hs hspelled)

theorem append (ha : Prints a ts) (hb : Prints b us) (hends : ∀ s, EndsNumber (b ++ s)) :
    Prints (a ++ b) (ts ++ us) := by
  intro s vs hs hspelled
  rw [List.append_assoc, List.append_assoc]
  exact ha _ _ (hends s) (hb s vs hs hspelled)

theorem newLine (depth : Nat) (h : Prints a ts) : Prints (newLine depth ++ a) ts := by
  rw [Json.newLine, List.cons_append]
  refine space rfl ?_
  induction 2 * depth with
  | zero => exact h
  | succ n ih => exact space rfl ih

end Prints

/-! ### The compact form -/

/-- Elements are printed if each of them is. -/
theorem prints_elementTokens {vs : List Json}
    (h : ∀ v ∈ vs, Prints ((tokens v).flatMap Token.text) (tokens v)) :
    Prints ((elementTokens vs).flatMap Token.text) (elementTokens vs) := by
  induction vs with
  | nil => exact .nil
  | cons v vs ih =>
    have hv := h v List.mem_cons_self
    cases vs with
    | nil => exact hv
    | cons w vs =>
      have hlater := ih fun u hu ↦ h u (List.mem_cons_of_mem v hu)
      rw [elementTokens, List.flatMap_append, List.flatMap_cons]
      exact hv.append (.token (t := .comma) rfl hlater) fun _ ↦ endsNumber_cons (by decide) _

/-- Members are printed if the value of each of them is. -/
theorem prints_memberTokens {ms : List (Option String × Json)}
    (h : ∀ m ∈ ms, Prints ((tokens m.2).flatMap Token.text) (tokens m.2)) :
    Prints ((memberTokens ms).flatMap Token.text) (memberTokens ms) := by
  induction ms with
  | nil => exact .nil
  | cons m ms ih =>
    obtain ⟨name, v⟩ := m
    have hv : Prints _ (tokens v) := h (name, v) List.mem_cons_self
    cases ms with
    | nil =>
      rw [memberTokens, List.flatMap_cons, List.flatMap_cons]
      exact .token rfl (.token (t := .colon) rfl hv)
    | cons m ms =>
      have hlater := ih fun u hu ↦ h u (List.mem_cons_of_mem _ hu)
      rw [memberTokens, List.cons_append, List.cons_append, List.flatMap_cons, List.flatMap_cons,
        List.flatMap_append, List.flatMap_cons]
      exact .token rfl (.token (t := .colon) rfl (hv.append (.token (t := .comma) rfl hlater)
        fun _ ↦ endsNumber_cons (by decide) _))

/-- Written without white space, tokens of a value are told apart. -/
theorem prints_tokens (v : Json) : Prints ((tokens v).flatMap Token.text) (tokens v) := by
  have hscalar : ∀ t : Token, Prints ([t].flatMap Token.text) [t] := fun t ↦ by
    rw [List.flatMap_singleton]
    exact .text t
  induction v using Json.induction with
  | array elements ih =>
    rw [tokens, List.cons_append, List.flatMap_cons, List.flatMap_append]
    exact .token rfl ((prints_elementTokens ih).append (.text .closeArray)
      fun _ ↦ endsNumber_cons (by decide) _)
  | object members ih =>
    rw [tokens, List.cons_append, List.flatMap_cons, List.flatMap_append]
    exact .token rfl ((prints_memberTokens ih).append (.text .closeObject)
      fun _ ↦ endsNumber_cons (by decide) _)
  | _ => exact hscalar _

/-! ### The wide form -/

theorem prints_wideElements {depth : Nat} {vs : List Json}
    (h : ∀ v ∈ vs, Prints (wideText depth v) (tokens v)) :
    Prints (wideElements depth vs) (elementTokens vs) := by
  induction vs with
  | nil => exact .nil
  | cons v vs ih =>
    have hv := h v List.mem_cons_self
    cases vs with
    | nil => exact hv
    | cons w vs =>
      have hlater := ih fun u hu ↦ h u (List.mem_cons_of_mem v hu)
      rw [elementTokens, wideElements, List.append_assoc, List.append_assoc]
      exact hv.append (.token (t := .comma) rfl (.newLine depth hlater))
        fun _ ↦ endsNumber_cons (by decide) _

theorem prints_wideMembers {depth : Nat} {ms : List (Option String × Json)}
    (h : ∀ m ∈ ms, Prints (wideText depth m.2) (tokens m.2)) :
    Prints (wideMembers depth ms) (memberTokens ms) := by
  induction ms with
  | nil => exact .nil
  | cons m ms ih =>
    obtain ⟨name, v⟩ := m
    have hv : Prints _ (tokens v) := h (name, v) List.mem_cons_self
    cases ms with
    | nil =>
      rw [memberTokens, wideMembers, List.append_assoc, List.append_assoc]
      exact .token rfl (.token (t := .colon) rfl (.space rfl hv))
    | cons m ms =>
      have hlater := ih fun u hu ↦ h u (List.mem_cons_of_mem _ hu)
      rw [memberTokens, wideMembers]
      simp only [List.append_assoc]
      exact .token rfl (.token (t := .colon) rfl (.space rfl
        (hv.append (.token (t := .comma) rfl (.newLine depth hlater))
          fun _ ↦ endsNumber_cons (by decide) _)))

/-- The wide form of a value prints its tokens, at any depth. -/
theorem prints_wideText (v : Json) (depth : Nat) : Prints (wideText depth v) (tokens v) := by
  induction v using Json.induction generalizing depth with
  | array elements ih =>
    cases elements with
    | nil => exact prints_tokens (.array [])
    | cons v vs =>
      have helements := prints_wideElements fun w hw ↦ ih w hw (depth + 1)
      rw [tokens, wideText]
      simp only [List.append_assoc]
      exact .token rfl (.newLine _ (helements.append (.newLine depth (.text .closeArray))
        fun _ ↦ endsNumber_cons (by decide) _))
  | object members ih =>
    cases members with
    | nil => exact prints_tokens (.object [])
    | cons m ms =>
      have hmembers := prints_wideMembers fun u hu ↦ ih u hu (depth + 1)
      rw [tokens, wideText]
      simp only [List.append_assoc]
      exact .token rfl (.newLine _ (hmembers.append (.newLine depth (.text .closeObject))
        fun _ ↦ endsNumber_cons (by decide) _))
  | _ => exact prints_tokens _

/-! ### From texts to values -/

/-- **A value is read from every spelling of its tokens.** -/
theorem ofText?_of_spelled {text : String} {v : Json} (h : Token.Spelled text.toList (tokens v)) :
    ofText? text = some v := by
  rw [ofText?, h.scan?_eq]
  exact ofTokens?_tokens v

/-- What is printed is spelled: printing is one of the ways to spell tokens. -/
theorem Prints.spelled {text : List Char} {ts : List Token} (h : Prints text ts) :
    Token.Spelled text ts := by
  simpa using h [] [] nofun .nil

theorem spelled_compact (v : Json) : Token.Spelled v.compact.toList (tokens v) := by
  rw [compact, String.toList_ofList]
  exact (prints_tokens v).spelled

theorem spelled_wide (v : Json) : Token.Spelled v.wide.toList (tokens v) := by
  rw [wide, String.toList_ofList]
  exact (prints_wideText v 0).spelled

/-- **A value is read back from its compact text.** -/
@[simp]
theorem ofText?_compact (v : Json) : ofText? v.compact = some v :=
  ofText?_of_spelled (spelled_compact v)

/-- **A value is read back from its wide text.** -/
@[simp]
theorem ofText?_wide (v : Json) : ofText? v.wide = some v :=
  ofText?_of_spelled (spelled_wide v)

end StringCalculator.Json
