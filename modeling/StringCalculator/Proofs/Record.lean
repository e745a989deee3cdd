import StringCalculator.Proofs.Encoding
import StringCalculator.Proofs.Json.Roundtrip
import StringCalculator.Proofs.Settings

/-!
# Records read back

Configurations and evaluations are read back from the JSON they are written as, and a settings file
may carry the JSON of a configuration in its section, next to anything else
(`records_read_back`).

A record is read by the names of its fields. Where the names are all there and each stands once,
every field gets its value (`fields?_ofMembers`); where one name is asked for, members of other
names do not matter (`fields?_singleton_ofMembers`). An operation is written as a symbol, which is
one of the many texts that name it.
-/

namespace StringCalculator

namespace Json

/-! ### Fields by their names -/

/-- The members of an object whose names are all texts. -/
def named (members : List (String × Json)) : List (Option String × Json) :=
  members.map fun m ↦ (some m.1, m.2)

/-- Members are well named if none of the names is given twice. -/
theorem wellNamed_named_iff {names : List String} {members : List (String × Json)} :
    wellNamed names (named members) = true ↔
      ∀ name ∈ names, (members.map Prod.fst).count name ≤ 1 := by
  have hsome : ((named members).all fun m ↦ m.1.isSome) = true := by simp [named]
  have hcount : ∀ name, (named members).countP (fun m ↦ m.1 == some name) =
      (members.map Prod.fst).count name := by
    intro name
    rw [named, List.countP_map, List.count, List.countP_map]
    simp [Function.comp_def]
  rw [wellNamed, hsome, Bool.true_and, List.all_eq_true]
  simp only [hcount, decide_eq_true_eq]

theorem find?_named_eq_none {name : String} {members : List (String × Json)}
    (h : name ∉ members.map Prod.fst) :
    (named members).find? (fun m ↦ m.1 == some name) = none := by
  rw [List.find?_eq_none, named, List.forall_mem_map]
  intro m hm heq
  obtain rfl : m.1 = name := by simpa using heq
  exact h (List.mem_map_of_mem hm)

/-- A name that does not stand gives nothing. -/
theorem member?_named_eq_none {name : String} {members : List (String × Json)}
    (h : name ∉ members.map Prod.fst) : member? name (named members) = none := by
  rw [member?, find?_named_eq_none h, Option.map_none]

/-- The first member of a name gives its value. -/
theorem member?_named {name : String} {before : List (String × Json)}
    (h : name ∉ before.map Prod.fst) (v : Json) (after : List (String × Json)) :
    member? name (named (before ++ (name, v) :: after)) = some v := by
  have hbefore := find?_named_eq_none h
  rw [named] at hbefore
  rw [member?, named, List.map_append, List.find?_append, hbefore]
  simp

/-- A member whose name stands once gives its value. -/
theorem member?_named_of_mem {name : String} {members : List (String × Json)} {v : Json}
    (h : (name, v) ∈ members) (honce : (members.map Prod.fst).count name ≤ 1) :
    member? name (named members) = some v := by
  obtain ⟨before, after, rfl⟩ := List.append_of_mem h
  refine member?_named (fun hbefore ↦ ?_) v after
  have hcount := List.count_pos_iff.2 hbefore
  rw [List.map_append, List.count_append, List.map_cons, List.count_cons_self] at honce
  omega

/-- A record is asked for each of its names if none of them stands twice. -/
theorem fields?_ofMembers_of_count_le {names : List String} {members : List (String × Json)}
    (h : ∀ name ∈ names, (members.map Prod.fst).count name ≤ 1) :
    (ofMembers members).fields? names =
      some (names.map fun name ↦ member? name (named members)) := by
  show (if wellNamed names (named members) = true then _ else none) = _
  rw [if_pos (wellNamed_named_iff.2 h)]
  rfl

/-- And it is refused if one does. -/
theorem fields?_ofMembers_of_lt_count {names : List String} {name : String}
    {members : List (String × Json)} (hname : name ∈ names)
    (h : 1 < (members.map Prod.fst).count name) : (ofMembers members).fields? names = none := by
  show (if wellNamed names (named members) = true then _ else none) = _
  rw [if_neg fun hnamed ↦ Nat.not_le_of_lt h (wellNamed_named_iff.1 hnamed name hname)]

/-- A record with all of its fields in it, each once, gives their values. -/
theorem fields?_ofMembers {members : List (String × Json)} (h : (members.map Prod.fst).Nodup) :
    (ofMembers members).fields? (members.map Prod.fst) = some (members.map fun m ↦ some m.2) := by
  have honce := List.nodup_iff_count.1 h
  have hmember : ∀ m ∈ members, member? m.1 (named members) = some m.2 := fun m hm ↦
    member?_named_of_mem hm (honce m.1)
  rw [fields?_ofMembers_of_count_le fun name _ ↦ honce name, List.map_map]
  exact congrArg some (List.map_congr_left hmember)

/-- A record of one field is read from among strangers. -/
theorem fields?_singleton_ofMembers {name : String} {before after : List (String × Json)}
    (h : name ∉ (before ++ after).map Prod.fst) (v : Json) :
    (ofMembers (before ++ (name, v) :: after)).fields? [name] = some [some v] := by
  rw [List.map_append, List.mem_append, not_or] at h
  rw [fields?_ofMembers_of_count_le, List.map_singleton, member?_named h.1]
  intro other hother
  obtain rfl := List.mem_singleton.1 hother
  simp [List.count_eq_zero.2 h.1, List.count_eq_zero.2 h.2]

/-! ### Values of fields -/

theorem number?_ofNumber (n : Number) : (ofNumber n).number? = some n :=
  Number.ofInt?_toInt n

/-- The symbol of an operation names it. -/
theorem operation?_ofOperation (op : Operation) : (ofOperation op).operation? = some op := by
  cases op <;> rfl

theorem list?_map {α : Type} {read? : Json → Option α} {write : α → Json}
    (h : ∀ a, read? (write a) = some a) (as : List α) :
    (array (as.map write)).list? read? = some as := by
  rw [list?]
  induction as with
  | nil => rfl
  | cons a as ih => simp [List.mapM_cons, h, ih]

end Json

/-! ### Configurations -/

/-- A configuration is read back from its record. -/
theorem Configuration.ofJson?_toJson (c : Configuration) : ofJson? c.toJson = some c := by
  have hnodup : fieldNames.Nodup := by decide
  have hfields : c.toJson.fields? fieldNames =
      some [some (.array (c.delimiters.map Json.ofString)), some (.bool c.denyNegatives),
        some (.ofNumber c.upperBound), some (.ofOperation c.operation)] :=
    @Json.fields?_ofMembers [_, _, _, _] hnodup
  have hdelimiters : (Json.array (c.delimiters.map Json.ofString)).list? Json.text? =
      some c.delimiters :=
    @Json.list?_map _ _ Json.ofString (fun _ ↦ rfl) c.delimiters
  rw [ofJson?, hfields]
  simp [Json.fieldOr, hdelimiters, Json.bool?, Json.number?_ofNumber, Json.operation?_ofOperation]

theorem Configuration.ofJsonText?_toJsonText (c : Configuration) :
    ofJsonText? c.toJsonText = some c := by
  rw [ofJsonText?, toJsonText, Json.ofText?_compact]
  exact c.ofJson?_toJson

/-! ### Settings files -/

namespace Settings

/-- The section of a settings file is read as a configuration is, whatever other sections there
are. -/
theorem ofJson?_section {before after : List (String × Json)}
    (h : sectionName ∉ (before ++ after).map Prod.fst) (j : Json) :
    ofJson? (.ofMembers (before ++ (sectionName, j) :: after)) = Configuration.ofJson? j := by
  rw [ofJson?, Json.fields?_singleton_ofMembers h]
  rfl

/-- A settings file may have other sections around the one for the calculator. -/
theorem ofJson?_ofMembers {before after : List (String × Json)}
    (h : sectionName ∉ (before ++ after).map Prod.fst) (c : Configuration) :
    ofJson? (.ofMembers (before ++ (sectionName, c.toJson) :: after)) = some c :=
  (ofJson?_section h c.toJson).trans c.ofJson?_toJson

/-- The text of a settings file with nothing but the calculator's section in it. -/
theorem compact_singleton_section (v : Json) :
    (Json.ofMembers [(sectionName, v)]).compact =
      "\x7b\"CalculatorSettings\":" ++ v.compact ++ "\x7d" := by
  have htokens : (Json.ofMembers [(sectionName, v)]).tokens =
      .openObject :: .string (some sectionName) :: .colon :: (v.tokens ++ [.closeObject]) :=
    rfl
  have hname : Json.Literal.quote sectionName.toList = "\"CalculatorSettings\"".toList := by
    decide
  refine String.toList_injective ?_
  simp [Json.compact, htokens, hname, Json.Token.text]

/-- A settings file gives what its text describes. -/
theorem load_of_ofText?_eq_some {files : Files} {path text : String} {j : Json}
    {c : Configuration} (hread : files.read path = .ok (Delimiter.bytes text))
    (htext : Json.ofText? text = some j) (hj : ofJson? j = some c) :
    load files path = .ok ⟨c.withoutEmptyDelimiters, some path⟩ := by
  refine load_eq_ok_iff.2 ⟨?_, rfl⟩
  rw [hread]
  exact .intro (decode?_bytes text) htext hj

end Settings

/-! ### Evaluations -/

namespace Evaluation

/-- An evaluation is read back from its record. -/
theorem ofJson?_toJson (e : Evaluation) : ofJson? e.toJson = some e := by
  have hnodup : fieldNames.Nodup := by decide
  have hfields : e.toJson.fields? fieldNames =
      some [some (.ofNumber e.value), some (.array (e.operands.map Json.ofNumber)),
        some (.ofOperation e.operation)] :=
    @Json.fields?_ofMembers [_, _, _] hnodup
  have hoperands : (Json.array (e.operands.map Json.ofNumber)).list? Json.number? =
      some e.operands :=
    Json.list?_map Json.number?_ofNumber e.operands
  rw [ofJson?, hfields]
  simp [hoperands, Json.number?_ofNumber, Json.operation?_ofOperation]

theorem ofJsonText?_toJsonText (e : Evaluation) : ofJsonText? e.toJsonText = some e := by
  rw [ofJsonText?, toJsonText, Json.ofText?_compact]
  exact e.ofJson?_toJson

theorem ofJsonText?_toWideJsonText (e : Evaluation) : ofJsonText? e.toWideJsonText = some e := by
  rw [ofJsonText?, toWideJsonText, Json.ofText?_wide]
  exact e.ofJson?_toJson

end Evaluation

/-! ### All records -/

/-- **What is written is read back**: a configuration from its JSON text, and without its empty
delimiters from a settings file that has this JSON in its section, alone or among other sections and
however the file is laid out; an evaluation from its compact text and from its wide one. -/
theorem records_read_back :
    (∀ c : Configuration, Configuration.ofJsonText? c.toJsonText = some c) ∧
      (∀ (c : Configuration) (files : Files) (path : String),
        files.read path = .ok (Delimiter.bytes
          ("\x7b\"CalculatorSettings\":" ++ c.toJsonText ++ "\x7d")) →
        Settings.load files path = .ok ⟨c.withoutEmptyDelimiters, some path⟩) ∧
      (∀ (c : Configuration) (files : Files) (path text : String) (calculator : Json)
        (before after : List (String × Json)),
        files.read path = .ok (Delimiter.bytes text) →
        Json.ofText? c.toJsonText = some calculator →
        Json.ofText? text =
          some (.ofMembers (before ++ (Settings.sectionName, calculator) :: after)) →
        Settings.sectionName ∉ (before ++ after).map Prod.fst →
        Settings.load files path = .ok ⟨c.withoutEmptyDelimiters, some path⟩) ∧
      (∀ e : Evaluation, Evaluation.ofJsonText? e.toJsonText = some e ∧
        Evaluation.ofJsonText? e.toWideJsonText = some e) := by
  refine ⟨Configuration.ofJsonText?_toJsonText, fun c files path hread ↦ ?_,
    fun c files path text calculator before after hread hcalculator htext hsection ↦ ?_,
    fun e ↦ ⟨e.ofJsonText?_toJsonText, e.ofJsonText?_toWideJsonText⟩⟩
  · rw [Configuration.toJsonText, ← Settings.compact_singleton_section] at hread
    exact Settings.load_of_ofText?_eq_some hread (Json.ofText?_compact _)
      (@Settings.ofJson?_ofMembers [] [] nofun c)
  · obtain rfl : c.toJson = calculator := by
      rwa [Configuration.toJsonText, Json.ofText?_compact, Option.some.injEq] at hcalculator
    exact Settings.load_of_ofText?_eq_some hread htext (Settings.ofJson?_ofMembers hsection c)

/-- A configuration with delimiters that need escapes, an empty one among them, and the least number
for its bound: in a file of its own, and between other sections in a wide layout. -/
theorem records_read_back_escapes :
    Settings.load
        ⟨fun _ ↦ .ok (Delimiter.bytes ("\x7b\"CalculatorSettings\":" ++
          (⟨["\"\\\x00", "", "→😀"], false, Number.ofToken "-9223372036854775808", .quotient⟩ :
            Configuration).toJsonText ++ "\x7d")), fun _ ↦ true⟩ "own.json" =
        .ok ⟨⟨["\"\\\x00", "→😀"], false, Number.ofToken "-9223372036854775808", .quotient⟩,
          some "own.json"⟩ ∧
      Settings.load
        ⟨fun _ ↦ .ok (Delimiter.bytes (Json.ofMembers ([("Logging", .array [.null, .decimal])] ++
          (Settings.sectionName,
            (⟨["\"\\\x00", "", "→😀"], false, Number.ofToken "-9223372036854775808", .quotient⟩ :
              Configuration).toJson) :: [("", .string none)])).wide), fun _ ↦ true⟩ "host.json" =
        .ok ⟨⟨["\"\\\x00", "→😀"], false, Number.ofToken "-9223372036854775808", .quotient⟩,
          some "host.json"⟩ :=
  ⟨records_read_back.2.1 ⟨["\"\\\x00", "", "→😀"], false, .ofToken "-9223372036854775808", .quotient⟩
      _ _ rfl,
    records_read_back.2.2.1
      ⟨["\"\\\x00", "", "→😀"], false, .ofToken "-9223372036854775808", .quotient⟩ _ _ _ _
      [("Logging", .array [.null, .decimal])] [("", .string none)] rfl (Json.ofText?_compact _)
      (Json.ofText?_wide _) (by decide)⟩

end StringCalculator
