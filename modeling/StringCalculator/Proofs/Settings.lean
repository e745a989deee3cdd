import Mathlib.Data.List.Induction
import StringCalculator.Settings

/-!
# Settings that are read again

What becomes of a configuration when settings files are read. `Describes` says which content of a
file is good, and for which configuration: it is UTF-8, the text is JSON, and the JSON is a record
with a good section in it. `Bad` lists what else a file may be, from missing to naming an unknown
operation. Every file is one or the other (`bad_iff`), and a bad one changes nothing
(`refresh_of_bad`).

The second half is about rows of events of which each may bring a configuration. `Latest` says which
one is in force behind them: the last one that was brought, or the one from before. Any system that
takes over what an event brings, and otherwise keeps what it has, ends with it
(`latest_iff_foldl`).
-/

namespace StringCalculator

/-! ### Good settings -/

/-- The content of a settings file and the configuration it describes, which has no empty
delimiters. -/
inductive Settings.Describes : Contents → Configuration → Prop
  | intro {bytes : List UInt8} {text : String} {j : Json} {c : Configuration}
      (decoded : decode? bytes = some text) (parsed : Json.ofText? text = some j)
      (section_eq : Settings.ofJson? j = some c) :
      Settings.Describes (.ok bytes) c.withoutEmptyDelimiters

/-- The content of a settings file that describes no configuration. -/
inductive Settings.Bad : Contents → Prop
  /-- There is no file, or it cannot be read. -/
  | unreadable {cause : ReadError} : Settings.Bad (.error cause)
  /-- It is not UTF-8. -/
  | notText {bytes : List UInt8} (undecoded : decode? bytes = none) : Settings.Bad (.ok bytes)
  /-- It is not JSON. -/
  | notJson {bytes : List UInt8} {text : String} (decoded : decode? bytes = some text)
      (unparsed : Json.ofText? text = none) : Settings.Bad (.ok bytes)
  /-- It has no good section: something is of the wrong kind or given twice, or the operation is
  unknown. -/
  | notSettings {bytes : List UInt8} {text : String} {j : Json}
      (decoded : decode? bytes = some text) (parsed : Json.ofText? text = some j)
      (no_section : Settings.ofJson? j = none) : Settings.Bad (.ok bytes)

namespace Settings

/-- What a file describes is read from it. -/
theorem ofContents_eq_ok_of_describes {contents : Contents} {c : Configuration}
    (h : Describes contents c) : ofContents contents = .ok c := by
  obtain ⟨hdecoded, hparsed, hsection⟩ := h
  simp [ofContents, Contents.text, ofText?, hdecoded, hparsed, hsection]

/-- What is read from a file is described by it. -/
theorem describes_of_ofContents_eq_ok {contents : Contents} {c : Configuration}
    (h : ofContents contents = .ok c) : Describes contents c := by
  rcases contents with e | bytes
  · cases h
  rw [ofContents, Contents.text] at h
  rcases hdecoded : decode? bytes with - | text
  · rw [hdecoded] at h
    cases h
  rcases htext : ofText? text with - | c'
  · simp [hdecoded, htext] at h
  obtain ⟨c₀, hc₀, rfl⟩ := Option.map_eq_some_iff.1 htext
  obtain ⟨j, hparsed, hsection⟩ := Option.bind_eq_some_iff.1 hc₀
  obtain rfl : c₀.withoutEmptyDelimiters = c := by simpa [hdecoded, htext] using h
  exact .intro hdecoded hparsed hsection

/-- A settings file gives the configuration that it describes. -/
theorem ofContents_eq_ok_iff {contents : Contents} {c : Configuration} :
    ofContents contents = .ok c ↔ Describes contents c :=
  ⟨describes_of_ofContents_eq_ok, ofContents_eq_ok_of_describes⟩

/-- A bad file describes nothing. -/
theorem Bad.not_describes {contents : Contents} (h : Bad contents) (c : Configuration) :
    ¬Describes contents c := by
  rintro ⟨hdecoded, hparsed, hsection⟩
  cases h with
  | notText hundecoded =>
    rw [hdecoded] at hundecoded
    cases hundecoded
  | notJson hdecoded' hunparsed =>
    obtain rfl := Option.some.inj (hdecoded.symm.trans hdecoded')
    rw [hparsed] at hunparsed
    cases hunparsed
  | notSettings hdecoded' hparsed' hno =>
    obtain rfl := Option.some.inj (hdecoded.symm.trans hdecoded')
    obtain rfl := Option.some.inj (hparsed.symm.trans hparsed')
    rw [hsection] at hno
    cases hno

/-- A file that is not bad describes a configuration. -/
theorem bad_or_describes (contents : Contents) : Bad contents ∨ ∃ c, Describes contents c := by
  rcases contents with cause | bytes
  · exact .inl .unreadable
  rcases hdecoded : decode? bytes with - | text
  · exact .inl (.notText hdecoded)
  rcases hparsed : Json.ofText? text with - | j
  · exact .inl (.notJson hdecoded hparsed)
  rcases hsection : ofJson? j with - | c
  · exact .inl (.notSettings hdecoded hparsed hsection)
  · exact .inr ⟨_, .intro hdecoded hparsed hsection⟩

/-- A settings file is bad if and only if it describes nothing. -/
theorem bad_iff {contents : Contents} : Bad contents ↔ ∀ c, ¬Describes contents c :=
  ⟨Bad.not_describes, fun h ↦ (bad_or_describes contents).resolve_right (not_exists.2 h)⟩

/-- Nothing is read from a bad file. -/
theorem isOk_ofContents_of_bad {contents : Contents} (h : Bad contents) :
    (ofContents contents).isOk = false := by
  rcases hd : ofContents contents with d | c
  · rfl
  · exact absurd (ofContents_eq_ok_iff.1 hd) (h.not_describes c)

end Settings

namespace Configuration

/-- A good file replaces the configuration as a whole. -/
theorem refresh_of_describes (c : Configuration) {contents : Contents} {new : Configuration}
    (h : Settings.Describes contents new) : c.refresh contents = new := by
  rw [refresh, Settings.ofContents_eq_ok_iff.2 h]

/-- A bad file changes nothing, whatever is wrong with it. -/
theorem refresh_of_bad (c : Configuration) {contents : Contents} (h : Settings.Bad contents) :
    c.refresh contents = c := by
  rcases hd : Settings.ofContents contents with d | new
  · rw [refresh, hd]
  · exact absurd (Settings.ofContents_eq_ok_iff.1 hd) (h.not_describes new)

/-! ### No empty delimiters -/

theorem empty_not_mem_withoutEmptyDelimiters (c : Configuration) :
    "" ∉ c.withoutEmptyDelimiters.delimiters := by
  simp [withoutEmptyDelimiters]

end Configuration

namespace Settings

/-- A settings file gives no empty delimiter. -/
theorem Describes.empty_not_mem {contents : Contents} {c : Configuration}
    (h : Describes contents c) : "" ∉ c.delimiters := by
  cases h with
  | intro _ _ _ => exact Configuration.empty_not_mem_withoutEmptyDelimiters _

/-- What is loaded from a path is what the file at this path describes. -/
theorem load_eq_ok_iff {files : Files} {path : String} {settings : Settings} :
    load files path = .ok settings ↔
      Describes (files.read path) settings.configuration ∧ settings.path = some path := by
  rw [← ofContents_eq_ok_iff, load]
  rcases ofContents (files.read path) with d | c
  · exact ⟨nofun, fun h ↦ nomatch h.1⟩
  · constructor
    · rintro h
      cases h
      exact ⟨rfl, rfl⟩
    · obtain ⟨configuration, path'⟩ := settings
      rintro ⟨hc, rfl⟩
      cases hc
      rfl

theorem empty_not_mem_of_load {files : Files} {path : String} {settings : Settings}
    (h : load files path = .ok settings) : "" ∉ settings.configuration.delimiters :=
  (load_eq_ok_iff.1 h).1.empty_not_mem

/-- A program starts without empty delimiters, whether there is a settings file or not. -/
theorem empty_not_mem_of_choose {files : Files} {asked : Option String} {settings : Settings}
    (h : choose files asked = .ok settings) : "" ∉ settings.configuration.delimiters := by
  rcases asked with - | path
  · by_cases hholds : files.holds defaultPath = true
    · rw [choose, if_pos hholds] at h
      exact empty_not_mem_of_load h
    · rw [choose, if_neg hholds] at h
      cases h
      decide
  · exact empty_not_mem_of_load h

end Settings

/-! ### The latest of several configurations -/

/-- What is in force behind a row of events that each may bring a configuration: the last one
brought, or else the one from before. -/
inductive Latest {α : Type} (Brings : α → Configuration → Prop) (c : Configuration) :
    List α → Configuration → Prop
  /-- None of the events brings one. -/
  | start {events : List α} (none : ∀ x ∈ events, ∀ k, ¬Brings x k) : Latest Brings c events c
  /-- One of them does, and none behind it. -/
  | brought {earlier later : List α} {x : α} {k : Configuration} (brings : Brings x k)
      (none : ∀ y ∈ later, ∀ k, ¬Brings y k) : Latest Brings c (earlier ++ x :: later) k

section

variable {α σ : Type} {Brings : α → Configuration → Prop} {current : σ → Configuration}
  {next : σ → α → σ}

/-- An event that brings nothing leaves the latest configuration in force. -/
theorem Latest.concat {c k : Configuration} {events : List α} {x : α}
    (h : Latest Brings c events k) (hx : ∀ k, ¬Brings x k) :
    Latest Brings c (events ++ [x]) k := by
  have hsnoc : ∀ {ys : List α}, (∀ y ∈ ys, ∀ k, ¬Brings y k) →
      ∀ y ∈ ys ++ [x], ∀ k, ¬Brings y k := by
    intro ys hys y hy
    rcases List.mem_append.1 hy with hy | hy
    · exact hys y hy
    · exact List.mem_singleton.1 hy ▸ hx
  cases h with
  | start hnone => exact .start (hsnoc hnone)
  | brought hbrings hnone =>
    rw [List.append_assoc, List.cons_append]
    exact .brought hbrings (hsnoc hnone)

/-- Events that bring nothing change nothing in force. -/
theorem current_foldl_of_forall
    (hkeep : ∀ s x, (∀ k, ¬Brings x k) → current (next s x) = current s) {events : List α}
    (h : ∀ x ∈ events, ∀ k, ¬Brings x k) (s : σ) :
    current (events.foldl next s) = current s := by
  induction events generalizing s with
  | nil => rfl
  | cons x xs ih =>
    rw [List.foldl_cons, ih fun y hy ↦ h y (List.mem_cons_of_mem x hy)]
    exact hkeep s x (h x List.mem_cons_self)

/-- **Who takes over what is brought, and otherwise keeps what there is, has the latest.** -/
theorem latest_iff_foldl (htake : ∀ s x k, Brings x k → current (next s x) = k)
    (hkeep : ∀ s x, (∀ k, ¬Brings x k) → current (next s x) = current s) {s : σ}
    {events : List α} {k : Configuration} :
    Latest Brings (current s) events k ↔ current (events.foldl next s) = k := by
  constructor
  · rintro (hnone | ⟨hbrings, hnone⟩)
    · exact current_foldl_of_forall hkeep hnone s
    · rw [List.foldl_append, List.foldl_cons, current_foldl_of_forall hkeep hnone]
      exact htake _ _ _ hbrings
  · rintro rfl
    induction events using List.reverseRecOn with
    | nil => exact .start fun _ hx ↦ absurd hx List.not_mem_nil
    | append_singleton xs x ih =>
      rw [List.foldl_append, List.foldl_cons, List.foldl_nil]
      by_cases hx : ∃ k, Brings x k
      · obtain ⟨k, hk⟩ := hx
        rw [htake _ _ _ hk]
        exact .brought hk fun _ hy ↦ absurd hy List.not_mem_nil
      · rw [not_exists] at hx
        rw [hkeep _ _ hx]
        exact ih.concat hx

end

end StringCalculator
