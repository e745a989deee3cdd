import StringCalculator.Program
import StringCalculator.Proofs.Encoding
import StringCalculator.Proofs.FileTree
import StringCalculator.Proofs.Settings

/-!
# One settings file

The settings of a run come from one file, and nothing steps in for it (`settings_from_one_file`).
`Chosen` says which file this is. Once it is chosen, only what reading it gives matters
(`choose_of_chosen`), so two trees that differ anywhere else cannot be told apart; if nothing is
chosen, the settings are the default ones (`choose_eq_ok_iff`).

If reading fails, the system has words for it, which are passed on. They are all that two failures
to read the same path can differ in, and `outcome` leaves them out.
-/

namespace StringCalculator

namespace Settings

/-! ### Kinds of defects -/

/-- The kinds of defects that a settings file may have. -/
inductive Defect.Kind where
  /-- There is no text to read. -/
  | io
  /-- The text does not describe a configuration. -/
  | parse
deriving DecidableEq

/-- The kind of a defect. -/
def Defect.kind : Defect → Kind
  | unreadable _ => .io
  | malformed => .parse

/-- The settings, or else the path and the kind of the defect, without the words that the system has
for it. -/
def outcome (r : Except SettingsError Settings) : Except (String × Defect.Kind) Settings :=
  r.mapError fun e ↦ (e.path, e.defect.kind)

/-- A bad file has a defect. Its kind tells whether there is a text in the file. -/
theorem exists_defect_of_bad {contents : Contents} (h : Bad contents) :
    ∃ d, ofContents contents = .error d ∧
      (d.kind = .io ↔ ∀ text, contents ≠ .ok (Delimiter.bytes text)) := by
  cases h with
  | @unreadable cause => exact ⟨.unreadable cause, rfl, iff_of_true rfl (by simp)⟩
  | @notText bytes hundecoded =>
    refine ⟨.unreadable .notText, by simp [ofContents, Contents.text, hundecoded], ?_⟩
    refine iff_of_true rfl fun text heq ↦ ?_
    cases heq
    rw [decode?_bytes] at hundecoded
    cases hundecoded
  | @notJson bytes text hdecoded hunparsed =>
    refine ⟨.malformed, by simp [ofContents, Contents.text, ofText?, hdecoded, hunparsed], ?_⟩
    exact iff_of_false (by decide) fun h ↦ h text (congrArg _ (decode?_eq_some_iff.1 hdecoded))
  | @notSettings bytes text j hdecoded hparsed hno =>
    refine ⟨.malformed, by simp [ofContents, Contents.text, ofText?, hdecoded, hparsed, hno], ?_⟩
    exact iff_of_false (by decide) fun h ↦ h text (congrArg _ (decode?_eq_some_iff.1 hdecoded))

/-! ### The chosen file -/

section

variable {files files' : Files} {asked : Option String} {path : String}

/-- Whether the settings are to come from the file at a path: it is the one asked for, or none is
asked for and there is something of the default name. -/
inductive Chosen (files : Files) : Option String → String → Prop
  | asked (path : String) : Chosen files (some path) path
  | default (holds : files.holds defaultPath = true) : Chosen files none defaultPath

theorem Chosen.unique {path' : String} (h : Chosen files asked path)
    (h' : Chosen files asked path') : path = path' := by
  cases h <;> cases h' <;> rfl

/-- The settings are those of the chosen file. -/
theorem choose_of_chosen (h : Chosen files asked path) : choose files asked = load files path := by
  cases h with
  | asked _ => rfl
  | default hholds => rw [choose, if_pos hholds]

/-- The default settings are chosen if no file is. -/
theorem chosen_or_default (files : Files) (asked : Option String) :
    (∃ path, Chosen files asked path) ∨
      asked = none ∧ files.holds defaultPath = false ∧ choose files asked = .ok ⟨{}, none⟩ := by
  rcases asked with - | path
  · by_cases hholds : files.holds defaultPath = true
    · exact .inl ⟨_, .default hholds⟩
    · rw [Bool.not_eq_true] at hholds
      exact .inr ⟨rfl, hholds, by simp [choose, hholds]⟩
  · exact .inl ⟨path, .asked path⟩

/-- Where settings come from: what the chosen file describes, or the default ones. -/
theorem choose_eq_ok_iff {settings : Settings} :
    choose files asked = .ok settings ↔
      (∃ path, Chosen files asked path ∧ settings.path = some path ∧
        Describes (files.read path) settings.configuration) ∨
      asked = none ∧ files.holds defaultPath = false ∧ settings = ⟨{}, none⟩ := by
  constructor
  · intro h
    rcases chosen_or_default files asked with ⟨path, hchosen⟩ | ⟨hasked, hholds, hdefault⟩
    · rw [choose_of_chosen hchosen, load_eq_ok_iff] at h
      exact .inl ⟨path, hchosen, h.2, h.1⟩
    · rw [hdefault] at h
      cases h
      exact .inr ⟨hasked, hholds, rfl⟩
  · rintro (⟨path, hchosen, hpath, hdescribes⟩ | ⟨rfl, hholds, rfl⟩)
    · rw [choose_of_chosen hchosen, load_eq_ok_iff]
      exact ⟨hdescribes, hpath⟩
    · simp [choose, hholds]

/-- A chosen file that is bad leaves no settings, and its defect tells its path and its kind. -/
theorem choose_error_of_bad (hchosen : Chosen files asked path) (hbad : Bad (files.read path)) :
    ∃ e, choose files asked = .error e ∧ e.path = path ∧
      (e.defect.kind = .io ↔ ∀ text, files.read path ≠ .ok (Delimiter.bytes text)) := by
  obtain ⟨d, hd, hkind⟩ := exists_defect_of_bad hbad
  refine ⟨⟨path, d⟩, ?_, rfl, hkind⟩
  rw [choose_of_chosen hchosen, load, hd]

section

variable {settings : Settings} (h : choose files asked = .ok settings)

include h

/-- The path of the settings is that of the chosen file. -/
theorem path_eq_some_iff : settings.path = some path ↔ Chosen files asked path := by
  rcases choose_eq_ok_iff.1 h with ⟨path', hchosen, hpath, -⟩ | ⟨rfl, hno, rfl⟩
  · rw [hpath, Option.some.injEq]
    exact ⟨fun heq ↦ heq ▸ hchosen, hchosen.unique⟩
  · refine iff_of_false (by simp) fun hchosen ↦ ?_
    cases hchosen with
    | default hholds => exact absurd hholds (by simp [hno])

/-- The chosen file describes the configuration of the settings. -/
theorem describes_of_path_eq_some (hpath : settings.path = some path) :
    Describes (files.read path) settings.configuration := by
  have hchosen := (path_eq_some_iff h).1 hpath
  rw [choose_of_chosen hchosen, load_eq_ok_iff] at h
  exact h.1

end

/-- What is loaded from a path is decided by what reading it gives. -/
theorem load_congr (h : files.read path = files'.read path) :
    load files path = load files' path := by
  rw [load, load, h]

/-- Two files that cannot be read are as good as each other. -/
theorem outcome_load_congr (h : (files.read path).toOption = (files'.read path).toOption) :
    outcome (load files path) = outcome (load files' path) := by
  rcases hread : files.read path with cause | bytes
  · rcases hread' : files'.read path with cause' | bytes'
    · rw [load, load, hread, hread']
      rfl
    · rw [hread, hread'] at h
      cases h
  · rcases hread' : files'.read path with cause' | bytes'
    · rw [hread, hread'] at h
      cases h
    · rw [hread, hread'] at h
      cases h
      rw [load_congr (hread.trans hread'.symm)]

end

/-! ### The default file -/

section

variable {t t' : FileTree}

theorem isName_defaultPath : FileTree.IsName defaultPath := by
  decide

/-- If no file is asked for, only the entry of the default name matters. -/
theorem choose_none_congr (h : t.entry? [defaultPath] = t'.entry? [defaultPath]) :
    choose t.files none = choose t'.files none := by
  have hlocate := FileTree.locate_congr_of_isName isName_defaultPath h
  have hholds : t.files.holds defaultPath = t'.files.holds defaultPath := by
    show t.holds defaultPath = t'.holds defaultPath
    rw [FileTree.holds, FileTree.holds, hlocate]
  have hread : t.files.read defaultPath = t'.files.read defaultPath := by
    show t.read defaultPath = t'.read defaultPath
    rw [FileTree.read, FileTree.read, hlocate]
  rw [choose, choose, hholds, load_congr hread]

/-- The default settings are chosen if and only if there is nothing of the default name. -/
theorem choose_none_eq_default_iff :
    choose t.files none = .ok ⟨{}, none⟩ ↔ ∀ e ∈ t.entries, ¬[defaultPath] <+: e.1 := by
  have hholds : t.files.holds defaultPath = false ↔ t.entry? [defaultPath] = none :=
    FileTree.holds_eq_false_iff_of_isName isName_defaultPath
  rw [choose_eq_ok_iff, ← FileTree.entry?_eq_none_iff, ← hholds]
  simp

end

end Settings

/-! ### Runs -/

namespace Program

/-- A run whose command line is understood does what its command says. -/
theorem run_of_read {words : List String} {i : Invocation}
    (h : CommandLine.read words = .ok (.run i)) (files : Files) (input : List UInt8) :
    run files input words = invoke files input i := by
  rw [run, h]

section

variable {files : Files} {settings : Settings} {asked : Option String}

/-- The settings of a command are the chosen ones. -/
theorem settings_of_choose_eq_ok {i : Invocation}
    (h : Settings.choose files i.settingsPath = .ok settings) :
    Program.settings files i = .ok settings := by
  rw [Program.settings, h]
  rfl

/-- With settings, a conversation is held under their configuration. -/
theorem invoke_converse (h : Settings.choose files asked = .ok settings) (watch : Bool)
    (input : List UInt8) :
    invoke files input ⟨asked, watch, .converse⟩ = converse settings.configuration input := by
  rw [invoke, settings_of_choose_eq_ok h]

/-- With settings, a text is calculated under their configuration. -/
theorem invoke_calculate (h : Settings.choose files asked = .ok settings) (watch : Bool)
    (input : List UInt8) (text : String) (json : Bool) :
    invoke files input ⟨asked, watch, .calculate text json⟩ =
      calculate settings.configuration text json := by
  rw [invoke, settings_of_choose_eq_ok h]

/-- Without settings every command fails, and writes nothing but its complaint. -/
theorem invoke_of_choose_eq_error {i : Invocation} {e : SettingsError}
    (h : Settings.choose files i.settingsPath = .error e) (input : List UInt8) :
    invoke files input i =
      { exit := 1, output := "", complaint := some ("Error: " ++ e.message) } := by
  rw [invoke, Program.settings, h]
  rfl

end

end Program

/-! ### All about the choice -/

/-- **Settings come from one file or not at all.** With a path asked for, nothing but what reading
it gives matters, and of a failure to read it no more than that it fails. Without one, only the
entry of the default name matters, and there are the default settings if and only if the tree has no
such entry, not even as a directory that is not listed. If the chosen file is bad there are no
settings, the defect is of the kind it should be, and every command fails with it before anything is
written. Otherwise the settings are what the chosen file describes, without empty delimiters. -/
theorem settings_from_one_file :
    (∀ (t t' : FileTree) (path : String),
        (t.read path = t'.read path →
          Settings.choose t.files (some path) = Settings.choose t'.files (some path)) ∧
        ((t.read path).toOption = (t'.read path).toOption →
          Settings.outcome (Settings.choose t.files (some path)) =
            Settings.outcome (Settings.choose t'.files (some path)))) ∧
      (∀ t t' : FileTree, t.entry? ["appsettings.json"] = t'.entry? ["appsettings.json"] →
        Settings.choose t.files none = Settings.choose t'.files none) ∧
      (∀ t : FileTree, Settings.choose t.files none = .ok ⟨{}, none⟩ ↔
        ∀ e ∈ t.entries, ¬["appsettings.json"] <+: e.1) ∧
      (∀ (t : FileTree) (asked : Option String) (path : String),
        Settings.Chosen t.files asked path → Settings.Bad (t.read path) →
        ∃ e, Settings.choose t.files asked = .error e ∧ e.path = path ∧
          (e.defect.kind = .io ↔ ∀ text, t.read path ≠ .ok (Delimiter.bytes text)) ∧
          ∀ words i input, CommandLine.read words = .ok (.run i) → i.settingsPath = asked →
            Program.run t.files input words =
              { exit := 1, output := "", complaint := some ("Error: " ++ e.message) }) ∧
      (∀ (t : FileTree) (asked : Option String) (settings : Settings),
        Settings.choose t.files asked = .ok settings →
        "" ∉ settings.configuration.delimiters ∧
          ∀ path, (settings.path = some path ↔ Settings.Chosen t.files asked path) ∧
            (settings.path = some path →
              Settings.Describes (t.read path) settings.configuration)) := by
  refine ⟨fun t t' path ↦ ⟨fun h ↦ Settings.load_congr h, fun h ↦ Settings.outcome_load_congr h⟩,
    fun t t' h ↦ Settings.choose_none_congr h, fun t ↦ Settings.choose_none_eq_default_iff,
    fun t asked path hchosen hbad ↦ ?_, fun t asked settings h ↦ ?_⟩
  · obtain ⟨e, hchoose, hpath, hkind⟩ := Settings.choose_error_of_bad hchosen hbad
    refine ⟨e, hchoose, hpath, hkind, ?_⟩
    rintro words i input hread rfl
    rw [Program.run_of_read hread, Program.invoke_of_choose_eq_error hchoose]
  · exact ⟨Settings.empty_not_mem_of_choose h, fun path ↦
      ⟨Settings.path_eq_some_iff h, Settings.describes_of_path_eq_some h⟩⟩

/-- A file below a directory that is not listed: the directory has the default name and cannot be
read, so every command fails; and asked for, it is as good as nothing. And a file of the default
name that is not JSON: the commands fail as well, though another file is good, which they would find
if it were asked for. -/
theorem settings_from_one_file_parent :
    Settings.choose (FileTree.ofPaths [("appsettings.json/old", .file [])]).files none ≠
        .ok ⟨{}, none⟩ ∧
      Program.run (FileTree.ofPaths [("appsettings.json/old", .file [])]).files []
          ["eval", "--json", "1"] =
        { exit := 1, output := "",
          complaint := some ("Error: failed to read settings file \"appsettings.json\": " ++
            "Is a directory (os error 21)") } ∧
      Settings.outcome (Settings.choose
        (FileTree.ofPaths [("appsettings.json/old", .file [])]).files (some "appsettings.json")) =
      Settings.outcome (Settings.choose (FileTree.ofPaths []).files (some "appsettings.json")) ∧
      Program.run (FileTree.ofPaths [("appsettings.json", .file (Delimiter.bytes "[[]")),
          ("good.json", .file (Delimiter.bytes "[]"))]).files (Delimiter.bytes "1\n") ["repl"] =
        { exit := 1, output := "",
          complaint := some "Error: failed to parse settings file \"appsettings.json\"" } ∧
      Settings.choose (FileTree.ofPaths [("appsettings.json", .file (Delimiter.bytes "[[]")),
          ("good.json", .file (Delimiter.bytes "[]"))]).files (some "good.json") =
        .ok ⟨{}, some "good.json"⟩ := by
  have hdirectory : (FileTree.ofPaths [("appsettings.json/old", .file [])]).read
      "appsettings.json" = .error .isDirectory := by decide +kernel
  have hchosen : Settings.Chosen (FileTree.ofPaths [("appsettings.json/old", .file [])]).files none
      "appsettings.json" := .default (by decide +kernel)
  have hchoose : Settings.choose
      (FileTree.ofPaths [("appsettings.json/old", .file [])]).files none =
      .error ⟨"appsettings.json", .unreadable .isDirectory⟩ := by decide +kernel
  obtain ⟨hasked, -, hdefault, hfails, -⟩ := settings_from_one_file
  obtain ⟨e, he, -, -, hrun⟩ := hfails _ none "appsettings.json" hchosen
    (hdirectory ▸ .unreadable)
  rw [hchoose, Except.error.injEq] at he
  -- the text in the other tree opens two arrays and closes one
  have hbad : Settings.Bad (.ok (Delimiter.bytes "[[]")) :=
    .notJson (decode?_bytes "[[]") (by decide +kernel)
  have hread : (FileTree.ofPaths [("appsettings.json", .file (Delimiter.bytes "[[]")),
      ("good.json", .file (Delimiter.bytes "[]"))]).read "appsettings.json" =
      .ok (Delimiter.bytes "[[]") := by decide +kernel
  have hchoose' : Settings.choose (FileTree.ofPaths [("appsettings.json",
      .file (Delimiter.bytes "[[]")), ("good.json", .file (Delimiter.bytes "[]"))]).files none =
      .error ⟨"appsettings.json", .malformed⟩ := by decide +kernel
  obtain ⟨e', he', -, -, hrun'⟩ := hfails (FileTree.ofPaths [("appsettings.json",
    .file (Delimiter.bytes "[[]")), ("good.json", .file (Delimiter.bytes "[]"))]) none
    "appsettings.json" (.default (by decide +kernel)) (hread ▸ hbad)
  rw [hchoose', Except.error.injEq] at he'
  refine ⟨fun h ↦ (hdefault _).1 h (["appsettings.json", "old"], .file []) (by decide +kernel)
    (by decide +kernel), ?_, (hasked _ _ _).2 (by decide +kernel), ?_, by decide +kernel⟩
  · rw [hrun _ ⟨none, false, .calculate "1" true⟩ [] (by rfl) rfl, ← he]
    decide +kernel
  · rw [hrun' _ ⟨none, false, .converse⟩ _ (by rfl) rfl, ← he']
    decide +kernel

end StringCalculator
