import StringCalculator.Proofs.Header

/-!
# The bracket groups of a declaration

What the text behind `//` declares, said without the scan for groups. An opening bracket is live if
a closing one follows it before any line feed (`Live`). `Grouped` describes a text as bracket groups
with gaps around them: no opening bracket in a gap is live, so that each group opens at the first
live bracket there is, and each group ends at the first closing bracket.

Every text is laid out in exactly one such way, and its groups are those that are read
(`existsUnique_grouped`). The seam between a gap and a group is where this is decided: a
live bracket opens a group and so cannot be inside a gap, which leaves one place for the first group
to begin (`Dead.append_inj`).
-/

namespace StringCalculator

namespace Header

/-! ### Live brackets -/

/-- Whether an opening bracket in front of a text is live: a closing one follows it, with no line
feed between them. -/
def Live (s : List Char) : Prop :=
  ∃ content rest, s = content ++ ']' :: rest ∧ '\n' ∉ content

theorem not_live_nil : ¬Live [] := by
  rintro ⟨content, rest, h, -⟩
  exact List.append_ne_nil_of_right_ne_nil content (List.cons_ne_nil _ _) h.symm

/-- A group that is open ends at this character, or goes on behind it unless it ends the line. -/
theorem live_cons_iff {c : Char} {s : List Char} :
    Live (c :: s) ↔ c = ']' ∨ c ≠ '\n' ∧ Live s := by
  constructor
  · rintro ⟨content, rest, h, hfeed⟩
    cases content with
    | nil => exact Or.inl (List.cons.inj h).1
    | cons a content =>
      obtain ⟨rfl, rfl⟩ := List.cons.inj h
      rw [List.mem_cons, not_or] at hfeed
      exact Or.inr ⟨Ne.symm hfeed.1, content, rest, rfl, hfeed.2⟩
  · rintro (rfl | ⟨hc, content, rest, rfl, hfeed⟩)
    · exact ⟨[], s, rfl, List.not_mem_nil⟩
    · exact ⟨c :: content, rest, rfl, List.not_mem_cons_of_ne_of_not_mem (Ne.symm hc) hfeed⟩

/-- The scan for a closing bracket finds one exactly behind a live bracket. -/
theorem toClosing?_eq_none_iff {s : List Char} : toClosing? s = none ↔ ¬Live s := by
  induction s with
  | nil => exact iff_of_true rfl not_live_nil
  | cons c s ih =>
    rw [toClosing?, live_cons_iff]
    by_cases hclose : c = ']'
    · simp [hclose]
    by_cases hfeed : c = '\n'
    · simp [hfeed]
    · simp [hclose, hfeed, ih]

instance (s : List Char) : Decidable (Live s) :=
  decidable_of_iff (toClosing? s ≠ none) (not_iff_comm.1 toClosing?_eq_none_iff.symm)

theorem not_mem_of_toClosing?_eq_some {s content rest : List Char}
    (h : toClosing? s = some (content, rest)) : ']' ∉ content ∧ '\n' ∉ content := by
  induction s generalizing content with
  | nil => cases h
  | cons c s ih =>
    unfold toClosing? at h
    split at h
    · cases h
      exact ⟨List.not_mem_nil, List.not_mem_nil⟩
    · next hclose =>
      split at h
      · cases h
      · next hfeed =>
        obtain ⟨g, hg, heq⟩ := Option.map_eq_some_iff.1 h
        cases heq
        obtain ⟨hclose', hfeed'⟩ := @ih g.1 (by simpa using hg)
        exact ⟨List.not_mem_cons_of_ne_of_not_mem (Ne.symm hclose) hclose',
          List.not_mem_cons_of_ne_of_not_mem (Ne.symm hfeed) hfeed'⟩

/-! ### Gaps -/

/-- Whether no opening bracket in a gap is live, with `rest` behind the gap. -/
def Dead (gap rest : List Char) : Prop :=
  ∀ u v, gap = u ++ '[' :: v → ¬Live (v ++ rest)

theorem dead_nil (rest : List Char) : Dead [] rest :=
  fun u _ h ↦ absurd h.symm (List.append_ne_nil_of_right_ne_nil u (List.cons_ne_nil _ _))

/-- No group begins in a gap if none begins at its first character and none later on. -/
theorem dead_cons_iff {c : Char} {gap rest : List Char} :
    Dead (c :: gap) rest ↔ (c = '[' → ¬Live (gap ++ rest)) ∧ Dead gap rest := by
  constructor
  · intro h
    exact ⟨fun hc ↦ h [] gap (by rw [hc, List.nil_append]), fun u v hgap ↦ h (c :: u) v (by
      rw [hgap, List.cons_append])⟩
  · rintro ⟨hc, hgap⟩ u v h
    cases u with
    | nil =>
      obtain ⟨rfl, rfl⟩ := List.cons.inj h
      exact hc rfl
    | cons a u => exact hgap u v (List.cons.inj h).2

instance decidableDead (gap rest : List Char) : Decidable (Dead gap rest) :=
  match gap with
  | [] => .isTrue (dead_nil rest)
  | c :: gap =>
    have := decidableDead gap rest
    decidable_of_iff ((c = '[' → ¬Live (gap ++ rest)) ∧ Dead gap rest) dead_cons_iff.symm

/-- Two gaps in front of one text, each with a live bracket behind it, are the same gap. -/
theorem Dead.append_inj {gap gap' s s' : List Char} (hgap : Dead gap ('[' :: s))
    (hgap' : Dead gap' ('[' :: s')) (hs : Live s) (hs' : Live s')
    (h : gap ++ '[' :: s = gap' ++ '[' :: s') : gap = gap' ∧ s = s' := by
  rcases List.append_eq_append_iff.1 h with ⟨u, hu, hrest⟩ | ⟨u, hu, hrest⟩
  -- either way, what one gap has more than the other begins with the live bracket of the other
  · cases u with
    | nil => exact ⟨by rw [hu, List.append_nil], (List.cons.inj hrest).2⟩
    | cons c u =>
      obtain ⟨rfl, rfl⟩ := List.cons.inj hrest
      exact absurd hs (hgap' gap u hu)
  · cases u with
    | nil => exact ⟨by rw [hu, List.append_nil], (List.cons.inj hrest).2.symm⟩
    | cons c u =>
      obtain ⟨rfl, rfl⟩ := List.cons.inj hrest
      exact absurd hs' (hgap gap' u hu)

/-- A gap has no groups. -/
theorem groups_append_of_dead {gap rest : List Char} (h : Dead gap rest) :
    groups (gap ++ rest) = groups rest := by
  induction gap with
  | nil => rfl
  | cons c gap ih =>
    obtain ⟨hc, hgap⟩ := dead_cons_iff.1 h
    rw [List.cons_append, groups]
    split
    · next hopen =>
      split
      · next content rest' hclosing =>
        rw [toClosing?_eq_none_iff.2 (hc hopen)] at hclosing
        cases hclosing
      · exact ih hgap
    · exact ih hgap

/-! ### Groups with gaps around them -/

/-- The text with a first gap and bracket groups, each with the gap behind it. -/
def gapped (gap : List Char) : List (List Char × List Char) → List Char
  | [] => gap
  | (content, next) :: rest => gap ++ '[' :: (content ++ ']' :: gapped next rest)

/-- The gaps and bracket groups of a text: no opening bracket in a gap is live, and a group ends at
the first closing bracket, before any line feed. -/
inductive Grouped : List Char → List (List Char × List Char) → Prop
  | last {gap : List Char} (dead : Dead gap []) : Grouped gap []
  | cons {gap content next : List Char} {gs : List (List Char × List Char)}
      (dead : Dead gap ('[' :: (content ++ ']' :: gapped next gs))) (no_closing : ']' ∉ content)
      (no_feed : '\n' ∉ content) (rest : Grouped next gs) : Grouped gap ((content, next) :: gs)

variable {gap gap' : List Char} {gs gs' : List (List Char × List Char)}

theorem gapped_cons (c : Char) (gap : List Char) (gs : List (List Char × List Char)) :
    gapped (c :: gap) gs = c :: gapped gap gs := by
  cases gs <;> rfl

/-- A character that is no live bracket goes into the first gap. -/
theorem Grouped.skip {c : Char} (hc : c = '[' → ¬Live (gapped gap gs)) (h : Grouped gap gs) :
    Grouped (c :: gap) gs := by
  cases h with
  | last dead => exact .last (dead_cons_iff.2 ⟨by rwa [List.append_nil], dead⟩)
  | cons dead no_closing no_feed rest =>
    exact .cons (dead_cons_iff.2 ⟨hc, dead⟩) no_closing no_feed rest

/-- Every line can be laid out in gaps and groups. -/
theorem exists_grouped (s : List Char) : ∃ gap gs, Grouped gap gs ∧ gapped gap gs = s := by
  fun_induction groups s with
  | case1 => exact ⟨[], [], .last (dead_nil _), rfl⟩
  | case2 r content rest hclosing ih =>
    obtain ⟨gap, gs, hgrouped, rfl⟩ := ih
    obtain ⟨hclose, hfeed⟩ := not_mem_of_toClosing?_eq_some hclosing
    refine ⟨[], (content, gap) :: gs, .cons (dead_nil _) hclose hfeed hgrouped, ?_⟩
    rw [eq_append_of_toClosing?_eq_some hclosing]
    rfl
  | case3 r hclosing ih =>
    obtain ⟨gap, gs, hgrouped, rfl⟩ := ih
    exact ⟨'[' :: gap, gs, hgrouped.skip fun _ ↦ toClosing?_eq_none_iff.1 hclosing,
      gapped_cons _ _ _⟩
  | case4 c r hc ih =>
    obtain ⟨gap, gs, hgrouped, rfl⟩ := ih
    exact ⟨c :: gap, gs, hgrouped.skip fun h ↦ absurd h hc, gapped_cons _ _ _⟩

/-- The groups of a text are those it is laid out with. -/
theorem groups_gapped (h : Grouped gap gs) : groups (gapped gap gs) = gs.map Prod.fst := by
  induction h with
  | @last gap dead =>
    have hgap := groups_append_of_dead dead
    rw [List.append_nil] at hgap
    rw [gapped, hgap, groups, List.map_nil]
  | cons dead no_closing no_feed rest ih =>
    rw [gapped, groups_append_of_dead dead,
      groups_cons_of_toClosing?_eq_some (toClosing?_append no_closing no_feed _), ih, List.map_cons]

/-- A text is laid out in no more than one way. -/
theorem Grouped.unique (h : Grouped gap gs) (h' : Grouped gap' gs')
    (heq : gapped gap gs = gapped gap' gs') : gap = gap' ∧ gs = gs' := by
  induction h generalizing gap' gs' with
  | @last gap dead =>
    have hgroups := groups_gapped (Grouped.last dead)
    rw [heq, groups_gapped h', List.map_nil, List.map_eq_nil_iff] at hgroups
    subst hgroups
    exact ⟨heq, rfl⟩
  | @cons gap content next gs dead no_closing no_feed rest ih =>
    have hgroups := groups_gapped (Grouped.cons dead no_closing no_feed rest)
    rw [heq, groups_gapped h'] at hgroups
    cases h' with
    | last => exact absurd hgroups.symm (List.cons_ne_nil _ _)
    | @cons _ content' next' gs' dead' _ no_feed' rest' =>
      obtain rfl : content' = content := (List.cons.inj hgroups).1
      obtain ⟨rfl, hbehind⟩ := dead.append_inj dead' ⟨content', _, rfl, no_feed⟩
        ⟨content', _, rfl, no_feed'⟩ heq
      have hlater : gapped next gs = gapped next' gs' :=
        (List.cons.inj (List.append_cancel_left hbehind)).2
      obtain ⟨rfl, rfl⟩ := ih rest' hlater
      exact ⟨rfl, rfl⟩

/-- **A declaration is read by its one layout.** Every text is laid out in exactly one way as
bracket groups with gaps around them, such that each group opens at the first live bracket behind the group
before it and ends at the first closing one, and no live bracket is left behind the last group. If
there is a group, what is declared is what the groups hold, in their order and without the empty
ones, and nothing of the gaps. If there is none, it is the whole text, unless that is empty. -/
theorem existsUnique_grouped (spec : String) :
    ∃ gap gs, Grouped gap gs ∧ gapped gap gs = spec.toList ∧
      (∀ gap' gs', Grouped gap' gs' → gapped gap' gs' = spec.toList → gap' = gap ∧ gs' = gs) ∧
      (gs ≠ [] →
        declared spec =
          ((gs.map Prod.fst).filter fun content ↦ !content.isEmpty).map String.ofList) ∧
      (gs = [] → declared spec = if spec = "" then [] else [spec]) := by
  obtain ⟨gap, gs, hgrouped, htext⟩ := exists_grouped spec.toList
  have hgroups : groups spec.toList = gs.map Prod.fst := by rw [← htext, groups_gapped hgrouped]
  refine ⟨gap, gs, hgrouped, htext, fun gap' gs' hgrouped' htext' ↦
    hgrouped'.unique hgrouped (htext'.trans htext.symm), fun hne ↦ ?_, fun hnil ↦ ?_⟩
  · obtain ⟨g, gs, rfl⟩ := List.exists_cons_of_ne_nil hne
    rw [declared, hgroups]
    rfl
  · rw [declared, hgroups, hnil]
    simp

/-- The first bracket is dead, as a line feed stands before the closing one. The second is live, and
its group holds the third. What is left opens a group with nothing in it, and one that is not
closed. -/
theorem existsUnique_grouped_nested :
    Grouped "[a\n".toList [("b[c".toList, "d]".toList), ([], "[e".toList)] ∧
      declared "[a\n[b[c]d][][e" = ["b[c"] := by
  have hgrouped : Grouped "[a\n".toList [("b[c".toList, "d]".toList), ([], "[e".toList)] :=
    .cons (by decide +kernel) (by decide +kernel) (by decide +kernel)
      (.cons (by decide +kernel) (by decide +kernel) (by decide +kernel)
        (.last (by decide +kernel)))
  obtain ⟨gap, gs, -, -, hunique, hdeclared, -⟩ :=
    existsUnique_grouped "[a\n[b[c]d][][e"
  obtain ⟨rfl, rfl⟩ := hunique _ _ hgrouped (by decide +kernel)
  refine ⟨hgrouped, (hdeclared (List.cons_ne_nil _ _)).trans ?_⟩
  decide +kernel

end Header

end StringCalculator
