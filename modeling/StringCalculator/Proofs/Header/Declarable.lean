import StringCalculator.Calculation
import StringCalculator.Proofs.Header.Decomposition

/-!
# Which delimiters a header can declare

The two questions that are left about headers: where one ends, and what one can bring into force.
The first is answered by the first line feed (`delimitersFor_detach_attach`). The second asks for
the image of `declared` on the texts that fit into a header, those without a line feed.

A text with a bracket group declares what its groups hold, and no group holds a closing bracket or
a line feed. These lists are written as rows of groups, one for each delimiter. A text without a
group declares itself, as one delimiter. In a text without a line feed every opening bracket in
front of a closing one is live, so there is no group exactly if there is no such bracket (`Bare`).

Nothing else can be declared (`detach_eq_and_declarable_iff`): a closing bracket is part of a
delimiter only if the delimiter is alone and no opening bracket stands before it.
-/

namespace StringCalculator

namespace Header

/-! ### Where a header ends -/

theorem isHeaded_attach (spec payload : String) : IsHeaded (attach spec payload) := by
  rw [IsHeaded, toList_attach]
  exact ⟨⟨_, rfl⟩, by simp⟩

/-- A text has a header exactly if it was put together with one. -/
theorem not_isHeaded_iff {text : String} :
    ¬IsHeaded text ↔ ∀ spec payload, '\n' ∉ spec.toList → text ≠ attach spec payload := by
  constructor
  · intro h spec payload _ htext
    exact h (htext ▸ isHeaded_attach spec payload)
  · intro h hheaded
    obtain ⟨spec, payload, hspec, htext⟩ := exists_eq_attach_of_isHeaded hheaded
    exact h spec payload hspec htext

/-- What a header declares comes behind what is configured, and the payload is all that stands
behind the first line feed. -/
theorem delimitersFor_detach_attach (c : Configuration) {spec : String}
    (hspec : '\n' ∉ spec.toList) (payload : String) :
    c.delimitersFor (detach (attach spec payload)) = c.delimiters ++ declared spec ∧
      (detach (attach spec payload)).payload = payload := by
  rw [detach_attach hspec]
  exact ⟨rfl, rfl⟩

/-- Without a header nothing is declared, and nothing is taken off. -/
theorem delimitersFor_detach_of_not_isHeaded (c : Configuration) {text : String}
    (h : ¬IsHeaded text) :
    c.delimitersFor (detach text) = c.delimiters ∧ (detach text).payload = text := by
  rw [detach_of_not_isHeaded h]
  exact ⟨List.append_nil _, rfl⟩

/-! ### Texts with a group -/

/-- No group holds what would end it. -/
theorem not_mem_of_mem_groups {s content : List Char} (h : content ∈ groups s) :
    ']' ∉ content ∧ '\n' ∉ content := by
  obtain ⟨gap, gs, hgrouped, rfl⟩ := exists_grouped s
  rw [groups_gapped hgrouped] at h
  induction hgrouped with
  | last => exact absurd h List.not_mem_nil
  | cons _ no_closing no_feed _ ih =>
    rcases List.mem_cons.1 h with rfl | h
    · exact ⟨no_closing, no_feed⟩
    · exact ih h

/-- If there is any group, all that is declared could have been declared in groups of its own. -/
theorem bracketable_of_mem_declared {spec d : String} (hgroups : groups spec.toList ≠ [])
    (hd : d ∈ declared spec) : Bracketable d := by
  obtain ⟨g, gs, hgs⟩ := List.exists_cons_of_ne_nil hgroups
  rw [declared, hgs] at hd
  obtain ⟨content, hcontent, rfl⟩ := List.mem_map.1 hd
  obtain ⟨hmem, hne⟩ := List.mem_filter.1 hcontent
  obtain ⟨hclose, hfeed⟩ := not_mem_of_mem_groups (hgs ▸ hmem)
  refine ⟨by simpa using hne, ?_, ?_⟩
  · rwa [String.toList_ofList]
  · rwa [String.toList_ofList]

/-! ### Texts without one -/

/-- A text has no group exactly if none of its opening brackets is live. -/
theorem groups_eq_nil_iff {s : List Char} : groups s = [] ↔ Dead s [] := by
  constructor
  · intro h
    obtain ⟨gap, gs, hgrouped, rfl⟩ := exists_grouped s
    rw [groups_gapped hgrouped, List.map_eq_nil_iff] at h
    subst h
    obtain ⟨dead⟩ := hgrouped
    exact dead
  · intro h
    have hgap := groups_append_of_dead h
    rwa [List.append_nil, groups.eq_def []] at hgap

/-- Without line feeds a bracket is live wherever a closing one follows. -/
theorem live_iff_of_feed_not_mem {s : List Char} (h : '\n' ∉ s) : Live s ↔ ']' ∈ s := by
  constructor
  · rintro ⟨content, rest, rfl, -⟩
    simp
  · intro hmem
    obtain ⟨content, rest, rfl⟩ := List.append_of_mem hmem
    exact ⟨content, rest, rfl, fun hfeed ↦ h (List.mem_append_left _ hfeed)⟩

/-- Whether a delimiter can be declared as it is, without a bracket group. -/
structure Bare (d : String) : Prop where
  /-- A header with nothing in it declares nothing. -/
  ne_empty : d ≠ ""
  /-- The first line feed ends the header. -/
  no_feed : '\n' ∉ d.toList
  /-- An opening bracket with a closing one behind it would begin a group. -/
  no_group : ∀ u v, d.toList = u ++ '[' :: v → ']' ∉ v

/-- Delimiters that need no brackets are nonempty, on one line, and have no group in them. -/
theorem bare_iff {d : String} :
    Bare d ↔ d ≠ "" ∧ '\n' ∉ d.toList ∧ groups d.toList = [] := by
  have hgroups (hfeed : '\n' ∉ d.toList) :
      groups d.toList = [] ↔ ∀ u v, d.toList = u ++ '[' :: v → ']' ∉ v := by
    rw [groups_eq_nil_iff]
    refine forall_congr' fun u ↦ forall_congr' fun v ↦ imp_congr_right fun heq ↦ ?_
    rw [List.append_nil, live_iff_of_feed_not_mem]
    exact fun hmem ↦ hfeed (heq ▸ List.mem_append_right u (List.mem_cons_of_mem _ hmem))
  constructor
  · intro h
    exact ⟨h.ne_empty, h.no_feed, (hgroups h.no_feed).2 h.no_group⟩
  · intro h
    exact ⟨h.1, h.2.1, (hgroups h.2.1).1 h.2.2⟩

instance (d : String) : Decidable (Bare d) :=
  decidable_of_iff _ bare_iff.symm

/-- A line without groups declares itself, unless it is empty. -/
theorem declared_of_groups_eq_nil {spec : String} (h : groups spec.toList = []) :
    declared spec = if spec = "" then [] else [spec] := by
  rw [declared, h]
  show (if spec.isEmpty then [] else [spec]) = _
  simp

/-- A bare delimiter is declared by itself. -/
theorem declared_of_bare {d : String} (h : Bare d) : declared d = [d] := by
  rw [declared_of_groups_eq_nil (bare_iff.1 h).2.2, if_neg h.ne_empty]

/-! ### All that can be declared -/

/-- Whether there is a header that declares given delimiters. -/
def Declarable (ds : List String) : Prop :=
  ∃ spec : String, '\n' ∉ spec.toList ∧ declared spec = ds

/-- Delimiters can be declared in brackets, or alone without them. -/
theorem declarable_iff {ds : List String} :
    Declarable ds ↔ (∀ d ∈ ds, Bracketable d) ∨ ∃ d, ds = [d] ∧ Bare d := by
  constructor
  · rintro ⟨spec, hspec, rfl⟩
    by_cases hgroups : groups spec.toList = []
    · rw [declared_of_groups_eq_nil hgroups]
      by_cases hempty : spec = ""
      · rw [if_pos hempty]
        exact Or.inl fun d hd ↦ absurd hd List.not_mem_nil
      · rw [if_neg hempty]
        exact Or.inr ⟨spec, rfl, bare_iff.2 ⟨hempty, hspec, hgroups⟩⟩
    · exact Or.inl fun d hd ↦ bracketable_of_mem_declared hgroups hd
  · rintro (hds | ⟨d, rfl, hd⟩)
    · exact ⟨bracketed ds, feed_not_mem_bracketed hds, declared_bracketed hds⟩
    · exact ⟨d, hd.no_feed, declared_of_bare hd⟩

/-- **Where a header ends, and which delimiters it can declare.** A header is `//`, a text without a
line feed, and a line feed. What it declares is added to the configured delimiters, and the payload
is what stands behind it, whatever that is. A text that is not made so is all payload. Delimiters
can be declared in two ways and in no other: any number of them in bracket groups, if none of them
is empty, has a closing bracket or has a line feed, or one of them as it is, if it is not empty, has
no line feed and no opening bracket in front of a closing one. -/
theorem detach_eq_and_declarable_iff :
    (∀ (c : Configuration) (spec payload : String), '\n' ∉ spec.toList →
        c.delimitersFor (detach (attach spec payload)) = c.delimiters ++ declared spec ∧
          (detach (attach spec payload)).payload = payload) ∧
      (∀ (c : Configuration) (text : String),
        (∀ spec payload, '\n' ∉ spec.toList → text ≠ attach spec payload) →
          c.delimitersFor (detach text) = c.delimiters ∧ (detach text).payload = text) ∧
      (∀ ds : List String,
        Declarable ds ↔ (∀ d ∈ ds, Bracketable d) ∨ ∃ d, ds = [d] ∧ Bare d) ∧
      ∀ ds : List String, (∀ d ∈ ds, Bracketable d) →
        '\n' ∉ (bracketed ds).toList ∧ declared (bracketed ds) = ds := by
  refine ⟨fun c spec payload hspec ↦ ?_, fun c text htext ↦ ?_, fun ds ↦ declarable_iff,
    fun ds hds ↦ ?_⟩
  · exact delimitersFor_detach_attach c hspec payload
  · exact delimitersFor_detach_of_not_isHeaded c (not_isHeaded_iff.2 htext)
  · exact ⟨feed_not_mem_bracketed hds, declared_bracketed hds⟩

/-- A payload with a header of its own; a text that has no line feed; a delimiter with a closing
bracket, which can be declared alone but not beside another one; and one that has its brackets in
order, which cannot be declared. -/
theorem detach_eq_and_declarable_iff_brackets :
    (({} : Configuration).delimitersFor (detach (attach "[*][%" "//;\n1")) = [",", "\n", "*"] ∧
        (detach (attach "[*][%" "//;\n1")).payload = "//;\n1") ∧
      (({} : Configuration).delimitersFor (detach "//;1;2") = [",", "\n"] ∧
        (detach "//;1;2").payload = "//;1;2") ∧
      (Declarable ["a]["] ∧ ¬Declarable ["a][", ";"] ∧ ¬Declarable ["[a]"]) ∧
      declared (bracketed ["[", ";"]) = ["[", ";"] := by
  obtain ⟨hheader, hpayload, hdeclarable, hbracketed⟩ := detach_eq_and_declarable_iff
  refine ⟨?_, hpayload {} "//;1;2" ?_, ⟨?_, ?_, ?_⟩, (hbracketed _ (by decide)).2⟩
  · have hdeclared : declared "[*][%" = ["*"] := by decide +kernel
    obtain ⟨hdelimiters, hrest⟩ := hheader {} "[*][%" "//;\n1" (by decide)
    rw [hdelimiters, hdeclared]
    exact ⟨rfl, hrest⟩
  · exact not_isHeaded_iff.1 (by decide)
  · exact (hdeclarable _).2 (Or.inr ⟨_, rfl, by decide +kernel⟩)
  · rw [hdeclarable]
    rintro (hall | ⟨d, hd, -⟩)
    · exact absurd (hall "a][" List.mem_cons_self) (by decide)
    · exact absurd hd (by simp)
  · rw [hdeclarable]
    rintro (hall | ⟨d, hd, hbare⟩)
    · exact absurd (hall "[a]" List.mem_cons_self) (by decide)
    · exact absurd (List.singleton_inj.1 hd ▸ hbare) (by decide +kernel)

end Header

end StringCalculator
