/-!
# Headers

A text may begin with a header, a first line that starts with `//` and declares further delimiters
for this text alone. Without its line feed it is no header, and the text is taken as it stands.

What follows `//` is either one delimiter as it is, or a row of bracket groups `[...]` with one
delimiter each. A group runs from an opening bracket to the next closing one, so a delimiter in
brackets may hold an opening bracket but no closing one. An opening bracket whose closing one is
missing, or stands behind a line feed, opens nothing. If there is any group at all, only groups
count: what stands between them is ignored, and so is a group with nothing in it.
-/

namespace StringCalculator

/-- A text taken apart. -/
structure Headed where
  /-- The delimiters that the header declares. -/
  declared : List String
  /-- What is left to cut into pieces. -/
  payload : String
deriving DecidableEq

namespace Header

/-- What stands before the first closing bracket, and what stands behind it, if no line feed comes
first. -/
def toClosing? : List Char → Option (List Char × List Char)
  | [] => none
  | c :: r =>
    if c = ']' then some ([], r)
    else if c = '\n' then none
    else (toClosing? r).map fun g ↦ (c :: g.1, g.2)

/-- What is left behind a closing bracket is shorter, so that looking for groups comes to an end. -/
theorem length_toClosing? {s content rest : List Char} (h : toClosing? s = some (content, rest)) :
    rest.length < s.length := by
  induction s generalizing content with
  | nil => cases h
  | cons c r ih =>
    unfold toClosing? at h
    split at h
    · cases h
      simp
    · split at h
      · cases h
      · obtain ⟨g, hg, heq⟩ := Option.map_eq_some_iff.1 h
        cases heq
        have := @ih g.1 (by simpa using hg)
        simp only [List.length_cons]
        omega

/-- The contents of the bracket groups of a text, from left to right. -/
def groups (s : List Char) : List (List Char) :=
  match s with
  | [] => []
  | c :: r =>
    if c = '[' then
      match _h : toClosing? r with
      | some (content, rest) => content :: groups rest
      | none => groups r
    else groups r
termination_by s.length
decreasing_by
  · have := length_toClosing? _h
    simp only [List.length_cons]
    omega
  · simp
  · simp

/-- The delimiters that the text behind `//` declares. -/
def declared (spec : String) : List String :=
  match groups spec.toList with
  | [] => if spec.isEmpty then [] else [spec]
  | gs => (gs.filter fun g ↦ !g.isEmpty).map String.ofList

/-- Takes the header off a text that has one. -/
def detach (text : String) : Headed :=
  match text.toList with
  | '/' :: '/' :: s =>
    match s.dropWhile (· != '\n') with
    | [] => ⟨[], text⟩
    | _ :: payload => ⟨declared (String.ofList (s.takeWhile (· != '\n'))), String.ofList payload⟩
  | _ => ⟨[], text⟩

end Header

end StringCalculator
