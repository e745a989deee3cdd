import StringCalculator.FileTree
import StringCalculator.Proofs.Delimiter.Splitting

/-!
# Names in a file tree

A path that is a single name leads to what the tree holds under this name, next to its root, and
nowhere else: no other entry has a say in it (`locate_of_isName`). The tree holds nothing under a
name if and only if no listed entry is there or further down (`entry?_eq_none_iff`), so a directory
need not be listed to exist.
-/

namespace StringCalculator

namespace FileTree

/-! ### Entries -/

/-- There is no entry at a path if nothing is at the path or below. -/
theorem entry?_eq_none_iff {t : FileTree} {path : List String} :
    t.entry? path = none ↔ ∀ e ∈ t.entries, ¬path <+: e.1 := by
  unfold entry?
  split
  · next e hfind =>
    obtain rfl : e.1 = path := by simpa using List.find?_some hfind
    exact iff_of_false nofun fun h ↦ h e (List.mem_of_find?_eq_some hfind) List.prefix_rfl
  · simp

/-! ### Paths of one name -/

/-- Whether a path is a single name that a file may have. -/
structure IsName (path : String) : Prop where
  /-- It is not cut. -/
  no_slash : '/' ∉ path.toList
  /-- The empty path leads nowhere. -/
  ne_empty : path ≠ ""
  /-- A dot is where the walk is already. -/
  ne_dot : path ≠ "."
  /-- Two dots are the way up. -/
  ne_dots : path ≠ ".."
  /-- It is not too long. -/
  size_le : path.utf8ByteSize ≤ maxNameLength

instance (path : String) : Decidable (IsName path) :=
  decidable_of_iff
    ('/' ∉ path.toList ∧ path ≠ "" ∧ path ≠ "." ∧ path ≠ ".." ∧ path.utf8ByteSize ≤ maxNameLength)
    ⟨fun h ↦ ⟨h.1, h.2.1, h.2.2.1, h.2.2.2.1, h.2.2.2.2⟩, fun h ↦ ⟨h.1, h.2, h.3, h.4, h.5⟩⟩

variable {path : String}

theorem names_of_isName (h : IsName path) : names path = [path] := by
  have hpieces : Delimiter.pieces ["/"] ("/".intercalate [path]) = [path] :=
    Delimiter.pieces_singleton_intercalate (by decide) (List.cons_ne_nil _ _) fun t ht c hc ↦ by
      obtain rfl := List.mem_singleton.1 ht
      obtain rfl : '/' = c := by simpa using hc
      exact h.no_slash
  rwa [String.intercalate_singleton] at hpieces

/-- What a name leads to is decided by the entry of this name alone. -/
theorem locate_of_isName (h : IsName path) (t : FileTree) :
    t.locate path =
      match t.entry? [path] with
      | some (.file content) => .ok (.file content)
      | some .directory => .ok (.directory [path])
      | none => .error .missing := by
  have hempty : ¬path.isEmpty = true := by simpa using h.ne_empty
  have hsize : ¬maxPathLength < path.utf8ByteSize := by
    have := h.size_le
    simp only [maxNameLength, maxPathLength] at *
    omega
  have hslash : ¬path.toList.head? = some '/' := fun hhead ↦ h.no_slash (List.mem_of_head? hhead)
  have hplain : ¬(path = "" ∨ path = ".") := not_or.2 ⟨h.ne_empty, h.ne_dot⟩
  rw [locate, if_neg hempty, if_neg hsize, if_neg hslash, names_of_isName h, List.foldlM_cons]
  show (t.enter (.directory []) path).bind _ = _
  rw [enter, if_neg hplain, if_neg h.ne_dots, if_neg (Nat.not_lt.2 h.size_le), List.nil_append]
  rcases t.entry? [path] with - | (content | -) <;> rfl

/-- A tree holds nothing of a name exactly if it has no such entry. -/
theorem holds_eq_false_iff_of_isName (h : IsName path) {t : FileTree} :
    t.holds path = false ↔ t.entry? [path] = none := by
  rw [holds, locate_of_isName h]
  rcases t.entry? [path] with - | (content | -) <;> simp [Except.isOk, Except.toBool]

/-- Trees that hold the same under a name cannot be told apart by it. -/
theorem locate_congr_of_isName (h : IsName path) {t t' : FileTree}
    (heq : t.entry? [path] = t'.entry? [path]) : t.locate path = t'.locate path := by
  rw [locate_of_isName h, locate_of_isName h, heq]

end FileTree

end StringCalculator
