import Mathlib.Data.Finset.Basic
import StringCalculator.Proofs.Record

/-!
# Records read field by field

A configuration may be written with some of its fields only, in any order and among members that
mean nothing to it. Which fields there are decides what is read, field by field: a field that is
held has its value, whatever the others are, and one that is left out has its default
(`Configuration.ofJson?_of_describes`). The same is true inside the section of a settings file,
since the section is read as a configuration is.

Two things are left to see for an object. Each field is found, because the names of an object may
stand in any order and only the number of times each stands is asked for (`Configuration.Holds`).
And nothing else is found, because a name that does not stand gives nothing
(`Json.member?_named_eq_none`). An array has no names; it holds the fields from the first on.
-/

namespace StringCalculator

namespace Configuration

/-! ### Fields -/

/-- The fields of a configuration. -/
inductive Field where
  /-- The texts a calculation is cut at. -/
  | delimiters
  /-- Whether negative numbers are refused. -/
  | denyNegatives
  /-- The greatest number that still counts. -/
  | upperBound
  /-- What the numbers are folded with. -/
  | operation
deriving DecidableEq

namespace Field

/-- Every field, in the order they are declared. -/
def all : List Field :=
  [delimiters, denyNegatives, upperBound, operation]

/-- The name of a field in a record. -/
def name : Field → String
  | delimiters => "delimiters"
  | denyNegatives => "denyNegatives"
  | upperBound => "upperBound"
  | operation => "operation"

theorem map_name_all : all.map name = fieldNames :=
  rfl

theorem name_mem (f : Field) : f.name ∈ fieldNames := by
  cases f <;> decide

end Field

/-- The configuration with its own values for some fields, and the defaults for the others. -/
def only (c : Configuration) (fields : Finset Field) : Configuration where
  delimiters :=
    if .delimiters ∈ fields then c.delimiters else (default : Configuration).delimiters
  denyNegatives :=
    if .denyNegatives ∈ fields then c.denyNegatives else (default : Configuration).denyNegatives
  upperBound :=
    if .upperBound ∈ fields then c.upperBound else (default : Configuration).upperBound
  operation :=
    if .operation ∈ fields then c.operation else (default : Configuration).operation

/-- The JSON values that give a field what it is in a configuration. Only an operation may be given
in more than one way: by any text that names it. -/
inductive Gives (c : Configuration) : Field → Json → Prop
  /-- The list of the delimiters. -/
  | delimiters : Gives c .delimiters (.array (c.delimiters.map .ofString))
  /-- A truth value. -/
  | denyNegatives : Gives c .denyNegatives (.bool c.denyNegatives)
  /-- An integer literal. -/
  | upperBound : Gives c .upperBound (.ofNumber c.upperBound)
  /-- A symbol or a name, in any spelling that is accepted. -/
  | operation {s : String} (names : Operation.ofText s = .ok c.operation) :
      Gives c .operation (.ofString s)

section

variable {c : Configuration} {fields : Finset Field} {f : Field} {v j : Json}
  {given : Field → Option Json} {members : List (String × Json)}

theorem Gives.list?_eq (h : Gives c .delimiters v) : v.list? Json.text? = some c.delimiters := by
  cases h
  exact @Json.list?_map _ _ Json.ofString (fun _ ↦ rfl) c.delimiters

theorem Gives.bool?_eq (h : Gives c .denyNegatives v) : v.bool? = some c.denyNegatives := by
  cases h
  rfl

theorem Gives.number?_eq (h : Gives c .upperBound v) : v.number? = some c.upperBound := by
  cases h
  exact Json.number?_ofNumber c.upperBound

theorem Gives.operation?_eq (h : Gives c .operation v) : v.operation? = some c.operation := by
  match h with
  | .operation names => simp [Json.operation?, Json.ofString, Json.text?, names, Except.toOption]

/-! ### From fields to configurations -/

/-- What a record gives for each field, if it holds some of them with the values they have in a
configuration, and none else. -/
structure Selects (c : Configuration) (fields : Finset Field) (given : Field → Option Json) :
    Prop where
  /-- The fields that are held. -/
  held : ∀ f ∈ fields, ∃ v, given f = some v ∧ Gives c f v
  /-- The fields that are left out. -/
  left_out : ∀ f ∉ fields, given f = none

/-- A field is read by itself: whether it is held is all that matters. -/
theorem Selects.fieldOr_eq {α : Type} {value base : α} {read? : Json → Option α}
    (h : Selects c fields given) (hread : ∀ {v}, Gives c f v → read? v = some value) :
    Json.fieldOr base read? (given f) = some (if f ∈ fields then value else base) := by
  by_cases hf : f ∈ fields
  · obtain ⟨v, hv, hgives⟩ := h.held f hf
    rw [hv, if_pos hf]
    exact hread hgives
  · rw [h.left_out f hf, if_neg hf]
    rfl

/-- **What a record holds is read field by field.** -/
theorem Selects.ofJson?_eq (h : Selects c fields given)
    (hfields : j.fields? fieldNames = some (Field.all.map given)) :
    ofJson? j = some (c.only fields) := by
  rw [ofJson?, hfields]
  simp only [Field.all, List.map_cons, List.map_nil, h.fieldOr_eq Gives.list?_eq,
    h.fieldOr_eq Gives.bool?_eq, h.fieldOr_eq Gives.number?_eq, h.fieldOr_eq Gives.operation?_eq]
  rfl

/-- No field takes a `null`. -/
theorem ofJson?_eq_none_of_null (hnull : given f = some .null)
    (hfields : j.fields? fieldNames = some (Field.all.map given)) : ofJson? j = none := by
  rw [ofJson?, hfields]
  cases f <;>
    simp [Field.all, hnull, Json.fieldOr, Json.list?, Json.bool?, Json.number?, Json.operation?,
      Json.text?]

/-! ### Objects -/

/-- The members of an object that hold some fields: each of their names stands once, with the value
of its field, and the other names of fields do not stand at all. Nothing is said of the order, nor
of members with any other name. -/
structure Holds (c : Configuration) (fields : Finset Field) (members : List (String × Json)) :
    Prop where
  /-- How often each name of a field stands. -/
  once : ∀ f : Field, (members.map Prod.fst).count f.name = if f ∈ fields then 1 else 0
  /-- What stands there. -/
  gives : ∀ (f : Field) (v : Json), (f.name, v) ∈ members → Gives c f v

/-- The fields of a record are looked up by name, if none is given twice. -/
theorem fields?_ofMembers_eq (h : ∀ f : Field, (members.map Prod.fst).count f.name ≤ 1) :
    (Json.ofMembers members).fields? fieldNames =
      some (Field.all.map fun f ↦ Json.member? f.name (Json.named members)) := by
  refine Json.fields?_ofMembers_of_count_le ?_
  rw [← Field.map_name_all, List.forall_mem_map]
  exact fun f _ ↦ h f

/-- The members of a record select the fields that it holds. -/
theorem Holds.selects (h : Holds c fields members) :
    Selects c fields fun f ↦ Json.member? f.name (Json.named members) where
  held f hf := by
    have hcount := h.once f
    rw [if_pos hf] at hcount
    obtain ⟨m, hm, hname⟩ := List.mem_map.1 (List.count_pos_iff.1 (hcount ▸ Nat.one_pos))
    have hmem : (f.name, m.2) ∈ members := hname ▸ hm
    exact ⟨m.2, Json.member?_named_of_mem hmem hcount.le, h.gives f m.2 hmem⟩
  left_out f hf := by
    have hcount := h.once f
    rw [if_neg hf] at hcount
    exact Json.member?_named_eq_none (List.count_eq_zero.1 hcount)

/-- A record that holds some of the fields is read as these, with defaults for the others. -/
theorem Holds.ofJson?_eq (h : Holds c fields members) :
    ofJson? (.ofMembers members) = some (c.only fields) := by
  refine h.selects.ofJson?_eq (fields?_ofMembers_eq fun f ↦ ?_)
  rw [h.once f]
  split <;> decide

/-- An object with the name of a field twice, or with `null` for a field, is no configuration. -/
theorem ofJson?_ofMembers_eq_none
    (h : 1 < (members.map Prod.fst).count f.name ∨ (f.name, Json.null) ∈ members) :
    ofJson? (.ofMembers members) = none := by
  -- if any name of a field stands twice, nothing else is looked at
  by_cases honce : ∀ f : Field, (members.map Prod.fst).count f.name ≤ 1
  · have hmem := h.resolve_left (by have := honce f; omega)
    exact ofJson?_eq_none_of_null (Json.member?_named_of_mem hmem (honce f))
      (fields?_ofMembers_eq honce)
  · obtain ⟨f', hf'⟩ := not_forall.1 honce
    rw [ofJson?, Json.fields?_ofMembers_of_lt_count f'.name_mem (Nat.lt_of_not_le hf')]

/-! ### Arrays -/

/-- The fields of an array are its elements in order, as far as they go. -/
theorem fields?_array_eq (value : Field → Json) (count : Nat) :
    (Json.array ((Field.all.take count).map value)).fields? fieldNames =
      some (Field.all.map fun f ↦
        if f ∈ (Field.all.take count).toFinset then some (value f) else none) := by
  match count with
  | 0 => rfl
  | 1 => rfl
  | 2 => rfl
  | 3 => rfl
  | count + 4 =>
    have htake : Field.all.take (count + 4) = Field.all :=
      List.take_of_length_le (by simp [Field.all])
    rw [htake]
    rfl

/-- The first elements of an array select the first fields. -/
theorem selects_take {value : Field → Json} {count : Nat}
    (h : ∀ f ∈ Field.all.take count, Gives c f (value f)) :
    Selects c (Field.all.take count).toFinset fun f ↦
      if f ∈ (Field.all.take count).toFinset then some (value f) else none where
  held f hf := ⟨value f, if_pos hf, h f (List.mem_toFinset.1 hf)⟩
  left_out _ hf := if_neg hf

/-! ### Descriptions -/

/-- The JSON values that describe a configuration by some of its fields. -/
inductive Describes (c : Configuration) : Finset Field → Json → Prop
  /-- An object that holds them. -/
  | object {fields : Finset Field} {members : List (String × Json)}
      (holds : Holds c fields members) : Describes c fields (.ofMembers members)
  /-- The array of the first few values. -/
  | array (count : Nat) (value : Field → Json)
      (gives : ∀ f ∈ Field.all.take count, Gives c f (value f)) :
      Describes c (Field.all.take count).toFinset (.array ((Field.all.take count).map value))

/-- What describes some of the fields is read as these, with defaults for the others. -/
theorem ofJson?_of_describes (h : Describes c fields j) : ofJson? j = some (c.only fields) := by
  match h with
  | .object holds => exact holds.ofJson?_eq
  | .array count value gives =>
    exact (selects_take gives).ofJson?_eq (fields?_array_eq value count)

end

end Configuration

/-! ### Settings files -/

namespace Settings

/-- The contents of settings files with a given JSON value as the calculator's section. Other
sections may stand on either side of it, and the text may be spelled in any way. -/
inductive Carries (j : Json) : Contents → Prop
  | intro {text : String} {before after : List (String × Json)}
      (spelled : Json.Token.Spelled text.toList
        (Json.ofMembers (before ++ (sectionName, j) :: after)).tokens)
      (unrelated : sectionName ∉ (before ++ after).map Prod.fst) :
      Carries j (.ok (Delimiter.bytes text))

variable {files : Files} {path : String} {j : Json} {c : Configuration}

/-- The section is read as a configuration is. -/
theorem Carries.load_eq_ok (h : Carries j (files.read path))
    (hj : Configuration.ofJson? j = some c) :
    load files path = .ok ⟨c.withoutEmptyDelimiters, some path⟩ := by
  generalize hread : files.read path = contents at h
  obtain ⟨hspelled, hunrelated⟩ := h
  exact load_of_ofText?_eq_some hread (Json.ofText?_of_spelled hspelled)
    ((ofJson?_section hunrelated j).trans hj)

/-- A settings file whose section is no configuration is malformed. -/
theorem Carries.load_eq_error (h : Carries j (files.read path))
    (hj : Configuration.ofJson? j = none) : load files path = .error ⟨path, .malformed⟩ := by
  generalize hread : files.read path = contents at h
  obtain ⟨hspelled, hunrelated⟩ := h
  simp [load, hread, ofContents, Contents.text, ofText?, decode?_bytes,
    Json.ofText?_of_spelled hspelled, ofJson?_section hunrelated, hj]

end Settings

namespace Configuration

/-- A text is read as the record it spells, however it spells it. -/
theorem ofJsonText?_of_spelled {text : String} {j : Json}
    (h : Json.Token.Spelled text.toList j.tokens) : ofJsonText? text = ofJson? j := by
  rw [ofJsonText?, Json.ofText?_of_spelled h, Option.bind_some]

/-- **A configuration is read field by field.** A text that describes some of its fields, whatever
the order, the strangers among them and the spelling, is read as the configuration with these fields
and the defaults for the others; in the section of a settings file, among any other sections, it is
loaded as that configuration without its empty delimiters. An object with a field given twice or as
`null` is refused in both places. -/
theorem ofJsonText?_fields (c : Configuration) (fields : Finset Field) :
    (∀ j, Describes c fields j →
      (∀ text : String, Json.Token.Spelled text.toList j.tokens →
        ofJsonText? text = some (c.only fields)) ∧
      ∀ files path, Settings.Carries j (files.read path) →
        Settings.load files path = .ok ⟨(c.only fields).withoutEmptyDelimiters, some path⟩) ∧
    ∀ (members : List (String × Json)) (f : Field),
      1 < (members.map Prod.fst).count f.name ∨ (f.name, Json.null) ∈ members →
        (∀ text : String, Json.Token.Spelled text.toList (Json.ofMembers members).tokens →
          ofJsonText? text = none) ∧
        ∀ files path, Settings.Carries (.ofMembers members) (files.read path) →
          Settings.load files path = .error ⟨path, .malformed⟩ := by
  refine ⟨fun j hj ↦ ?_, fun members f hf ↦ ?_⟩
  · have hread := ofJson?_of_describes hj
    exact ⟨fun text htext ↦ (ofJsonText?_of_spelled htext).trans hread,
      fun files path hfile ↦ hfile.load_eq_ok hread⟩
  · have hrefused := ofJson?_ofMembers_eq_none hf
    exact ⟨fun text htext ↦ (ofJsonText?_of_spelled htext).trans hrefused,
      fun files path hfile ↦ hfile.load_eq_error hrefused⟩

/-- Two of the fields, the operation spelled with a blank and a capital letter, around a stranger
whose name is like that of a field; then among other sections; then the first two values as an
array; then the object with the bound as `null`. -/
theorem ofJsonText?_fields_two :
    ofJsonText? (Json.ofMembers
        [("operation", .ofString " Quotient"), ("Operation", .object [(none, .array [.decimal])]),
          ("delimiters", .array [.ofString "→", .ofString ""])]).compact =
        some ⟨["→", ""], true, .thousand, .quotient⟩ ∧
      Settings.load
        ⟨fun _ ↦ .ok (Delimiter.bytes (Json.ofMembers ([("Logging", .array [.null, .decimal])] ++
          (Settings.sectionName, .ofMembers
            [("operation", .ofString " Quotient"),
              ("Operation", .object [(none, .array [.decimal])]),
              ("delimiters", .array [.ofString "→", .ofString ""])]) ::
          [("operation", .null)])).wide), fun _ ↦ true⟩ "host.json" =
        .ok ⟨⟨["→"], true, .thousand, .quotient⟩, some "host.json"⟩ ∧
      ofJsonText? (Json.array [.array [.ofString "→", .ofString ""], .bool false]).compact =
        some ⟨["→", ""], false, .thousand, .sum⟩ ∧
      ofJsonText? (Json.ofMembers
        [("operation", .ofString " Quotient"), ("upperBound", .null)]).compact = none := by
  have holds : Holds ⟨["→", ""], false, .zero, .quotient⟩ {.delimiters, .operation}
      [("operation", .ofString " Quotient"), ("Operation", .object [(none, .array [.decimal])]),
        ("delimiters", .array [.ofString "→", .ofString ""])] := by
    refine ⟨fun f ↦ ?_, fun f v hmem ↦ ?_⟩
    · cases f <;> decide +kernel
    · match f with
      | .delimiters =>
        obtain rfl : v = .array [.ofString "→", .ofString ""] := by simpa [Field.name] using hmem
        exact .delimiters
      | .denyNegatives => exact absurd hmem (by simp [Field.name])
      | .upperBound => exact absurd hmem (by simp [Field.name])
      | .operation =>
        obtain rfl : v = .ofString " Quotient" := by simpa [Field.name] using hmem
        exact .operation (by decide +kernel)
  have hobject := (ofJsonText?_fields _ _).1 _ (.object holds)
  have harray := (ofJsonText?_fields ⟨["→", ""], false, .zero, .quotient⟩ _).1 _
    (.array 2
      (fun
        | .delimiters => .array [.ofString "→", .ofString ""]
        | _ => .bool false)
      fun f hf ↦ by
        obtain rfl | rfl : f = .delimiters ∨ f = .denyNegatives := by simpa [Field.all] using hf
        · exact .delimiters
        · exact .denyNegatives)
  exact ⟨hobject.1 _ (Json.spelled_compact _),
    hobject.2 _ _ (.intro (Json.spelled_wide _) (by decide +kernel)),
    harray.1 _ (Json.spelled_compact _),
    ((ofJsonText?_fields default ∅).2 _ .upperBound (.inr (by simp [Field.name]))).1 _
      (Json.spelled_compact _)⟩

end Configuration

end StringCalculator
