import Mathlib.Data.List.TakeWhile
import StringCalculator.Header

/-!
# Headers of a known shape

Taking a header off a text, and reading what it declares, where the text was put together with one.
`attach` puts a header in front of a payload and `bracketed` writes a row of bracket groups; behind
them `detach` and `declared` give back what went in (`detach_attach`, `declared_bracketed`).

Two facts make the seams hold. A header ends at its first line feed, so the payload may have line
feeds and headers of its own, while the declaration may not have any. And a bracket group ends at
the first closing bracket, so a delimiter in brackets may have opening ones.
-/

namespace StringCalculator

namespace Header

/-! ### Bracket groups -/

/-- A group without brackets and line feeds ends at the first closing bracket behind it. -/
theorem toClosing?_append {d : List Char} (hclose : ']' ∉ d) (hfeed : '\n' ∉ d) (r : List Char) :
    toClosing? (d ++ ']' :: r) = some (d, r) := by
  induction d with
  | nil => rfl
  | cons c d ih =>
    rw [List.mem_cons, not_or] at hclose hfeed
    rw [List.cons_append, toClosing?, if_neg (Ne.symm hclose.1), if_neg (Ne.symm hfeed.1),
      ih hclose.2 hfeed.2]
    rfl

/-- What is found up to a closing bracket is the beginning of the text. -/
theorem eq_append_of_toClosing?_eq_some {s content rest : List Char}
    (h : toClosing? s = some (content, rest)) : s = content ++ ']' :: rest := by
  induction s generalizing content with
  | nil => cases h
  | cons c s ih =>
    unfold toClosing? at h
    split at h
    · next hclose =>
      cases h
      rw [hclose, List.nil_append]
    · split at h
      · cases h
      · obtain ⟨g, hg, heq⟩ := Option.map_eq_some_iff.1 h
        cases heq
        rw [List.cons_append, ← @ih g.1 (by simpa using hg)]

/-- An opening bracket with a closing one behind it makes a group. -/
theorem groups_cons_of_toClosing?_eq_some {s content rest : List Char}
    (h : toClosing? s = some (content, rest)) : groups ('[' :: s) = content :: groups rest := by
  rw [groups, if_pos rfl]
  split
  · next content' rest' h' =>
    rw [h] at h'
    cases h'
    rfl
  · next h' =>
    rw [h] at h'
    cases h'

/-- Whether a delimiter can be declared in a bracket group of its own. -/
structure Bracketable (d : String) : Prop where
  /-- A group with nothing in it declares nothing. -/
  ne_empty : d ≠ ""
  /-- The first closing bracket ends the group. -/
  no_closing : ']' ∉ d.toList
  /-- The first line feed ends the header. -/
  no_feed : '\n' ∉ d.toList

instance (d : String) : Decidable (Bracketable d) :=
  decidable_of_iff (d ≠ "" ∧ ']' ∉ d.toList ∧ '\n' ∉ d.toList)
    ⟨fun h ↦ ⟨h.1, h.2.1, h.2.2⟩, fun h ↦ ⟨h.1, h.2, h.3⟩⟩

/-- The row of bracket groups that declares given delimiters. -/
def bracketed (ds : List String) : String :=
  String.join (ds.map fun d ↦ "[" ++ d ++ "]")

theorem toList_bracketed_cons (d : String) (ds : List String) :
    (bracketed (d :: ds)).toList = '[' :: (d.toList ++ ']' :: (bracketed ds).toList) := by
  simp [bracketed]

/-- The groups of delimiters in brackets are these delimiters. -/
theorem groups_bracketed {ds : List String} (hds : ∀ d ∈ ds, Bracketable d) :
    groups (bracketed ds).toList = ds.map String.toList := by
  induction ds with
  | nil => simp [bracketed, groups]
  | cons d ds ih =>
    have hd := hds d List.mem_cons_self
    rw [toList_bracketed_cons, groups_cons_of_toClosing?_eq_some
      (toClosing?_append hd.no_closing hd.no_feed _),
      ih fun e he ↦ hds e (List.mem_cons_of_mem _ he), List.map_cons]

/-- A row of bracket groups declares the delimiters in it, in their order. -/
theorem declared_bracketed {ds : List String} (hds : ∀ d ∈ ds, Bracketable d) :
    declared (bracketed ds) = ds := by
  rw [declared, groups_bracketed hds]
  cases ds with
  | nil => rfl
  | cons d ds =>
    have hfilter : ((d :: ds).map String.toList).filter (fun g ↦ !g.isEmpty) =
        (d :: ds).map String.toList := by
      refine List.filter_eq_self.2 fun g hg ↦ ?_
      obtain ⟨e, he, rfl⟩ := List.mem_map.1 hg
      simpa using (hds e he).ne_empty
    show (((d :: ds).map String.toList).filter fun g ↦ !g.isEmpty).map String.ofList = d :: ds
    rw [hfilter, List.map_map]
    simp [Function.comp_def]

theorem feed_not_mem_bracketed {ds : List String} (hds : ∀ d ∈ ds, Bracketable d) :
    '\n' ∉ (bracketed ds).toList := by
  induction ds with
  | nil => simp [bracketed]
  | cons d ds ih =>
    have hd := (hds d List.mem_cons_self).no_feed
    simp [toList_bracketed_cons, hd, ih fun e he ↦ hds e (List.mem_cons_of_mem _ he)]

/-! ### Where a header ends -/

/-- A text with a header in front of a payload. -/
def attach (spec payload : String) : String :=
  "//" ++ spec ++ "\n" ++ payload

/-- Whether a text has a header: it begins with `//` and has a line feed. -/
def IsHeaded (text : String) : Prop :=
  ['/', '/'] <+: text.toList ∧ '\n' ∈ text.toList

instance (text : String) : Decidable (IsHeaded text) :=
  inferInstanceAs (Decidable (_ ∧ _))

theorem toList_attach (spec payload : String) :
    (attach spec payload).toList = '/' :: '/' :: (spec.toList ++ '\n' :: payload.toList) := by
  simp [attach]

/-- The header ends at its first line feed, whatever stands behind it. -/
theorem detach_attach {spec : String} (hspec : '\n' ∉ spec.toList) (payload : String) :
    detach (attach spec payload) = ⟨declared spec, payload⟩ := by
  have hall : ∀ c ∈ spec.toList, (c != '\n') = true := fun c hc ↦
    bne_iff_ne.2 fun h ↦ hspec (h ▸ hc)
  rw [detach, toList_attach]
  simp [List.dropWhile_append_of_pos hall, List.takeWhile_append_of_pos hall]

/-- A text without a header is all payload. -/
theorem detach_of_not_isHeaded {text : String} (h : ¬IsHeaded text) : detach text = ⟨[], text⟩ := by
  rw [detach]
  split
  · next s hs =>
    have hfeed : s.dropWhile (· != '\n') = [] := by
      rw [List.dropWhile_eq_nil_iff]
      intro c hc
      refine bne_iff_ne.2 ?_
      rintro rfl
      exact h ⟨⟨s, hs.symm⟩, by simp [hs, hc]⟩
    rw [hfeed]
  · rfl

/-- A text with a header is a line in front of a payload. -/
theorem exists_eq_attach_of_isHeaded {text : String} (h : IsHeaded text) :
    ∃ spec payload, '\n' ∉ spec.toList ∧ text = attach spec payload := by
  obtain ⟨⟨s, hs⟩, hfeed⟩ := h
  have hmem : '\n' ∈ s := by simpa [← hs] using hfeed
  obtain ⟨spec, payload, rfl, hspec⟩ := List.eq_append_cons_of_mem hmem
  refine ⟨.ofList spec, .ofList payload, by rwa [String.toList_ofList], String.toList_injective ?_⟩
  rw [toList_attach, String.toList_ofList, String.toList_ofList, ← hs]
  rfl

end Header

end StringCalculator
