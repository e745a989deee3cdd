import StringCalculator.Proofs.Encoding
import StringCalculator.Proofs.Session.History

/-!
# Following a settings file

What is in force while a settings file is followed. Whenever the file changes it is read again, and
what happens to other files is passed over. A row of changes is therefore a row of steps in a
session (`Change.step`), and to follow it is to hold this session (`map_snd_run_changes`).

`run_changes_eq_latest` says what comes of it. Behind every change the latest good content of the
file is in force. A bad one is reported, and it leaves the session as it was, in all that it holds.
Only the settings at the start can have empty delimiters, as every file is rid of them, and the
settings that a program starts with have none either.
-/

namespace StringCalculator

namespace Change

/-- The configuration that a change loads. -/
inductive Loads : Change → Configuration → Prop
  /-- It is the one that the settings file now describes. -/
  | settingsFile {contents : Contents} {new : Configuration}
      (describes : Settings.Describes contents new) : Loads (.settingsFile contents) new

/-- What a session does about a change. -/
def step : Change → Session.Step
  | .settingsFile contents => .refresh contents
  | .otherFile => .look

end Change

namespace Configuration

section

variable (c : Configuration) {change : Change}

/-- A change that loads a configuration puts it in force. -/
theorem afterChange_of_loads {new : Configuration} (h : change.Loads new) :
    c.afterChange change = new := by
  obtain ⟨hdescribes⟩ := h
  exact c.refresh_of_describes hdescribes

/-- Any other change changes nothing. -/
theorem afterChange_of_not_loads (h : ∀ new, ¬change.Loads new) : c.afterChange change = c := by
  match change, h with
  | .otherFile, _ => rfl
  | .settingsFile contents, h =>
    have hbad : Settings.Bad contents :=
      Settings.bad_iff.2 fun new hnew ↦ h new (.settingsFile hnew)
    exact c.refresh_of_bad hbad

/-- A change brings no empty delimiter. -/
theorem empty_not_mem_afterChange (h : "" ∉ c.delimiters) (change : Change) :
    "" ∉ (c.afterChange change).delimiters := by
  match change with
  | .otherFile => exact h
  | .settingsFile contents =>
    show "" ∉ (c.refresh contents).delimiters
    obtain hbad | ⟨new, hnew⟩ := Settings.bad_or_describes contents
    · rwa [c.refresh_of_bad hbad]
    · rw [c.refresh_of_describes hnew]
      exact hnew.empty_not_mem

end

/-- What is in force at a change comes from the changes up to there. -/
theorem getElem?_follow (c : Configuration) (before : List Change) (change : Change)
    (rest : List Change) :
    (c.follow (before ++ change :: rest))[before.length]? =
      some ((before ++ [change]).foldl afterChange c) := by
  induction before generalizing c with
  | nil => rfl
  | cons x xs ih =>
    rw [List.cons_append, follow, List.length_cons, List.getElem?_cons_succ, ih]
    rfl

/-- Changes bring no empty delimiter. -/
theorem empty_not_mem_of_mem_follow {c k : Configuration} {history : List Change}
    (h : "" ∉ c.delimiters) (hk : k ∈ c.follow history) : "" ∉ k.delimiters := by
  induction history generalizing c with
  | nil => exact absurd hk List.not_mem_nil
  | cons change history ih =>
    have hnext := c.empty_not_mem_afterChange h change
    obtain rfl | hk := List.mem_cons.1 hk
    · exact hnext
    · exact ih hnext hk

/-- The configuration behind a row of changes is the latest one that was loaded. -/
theorem latest_loads_iff {c k : Configuration} {history : List Change} :
    Latest Change.Loads c history k ↔ history.foldl afterChange c = k :=
  @latest_iff_foldl Change Configuration Change.Loads id afterChange
    (fun c _ _ h ↦ c.afterChange_of_loads h) (fun c _ h ↦ c.afterChange_of_not_loads h) c history k

end Configuration

namespace Session

/-- A change does to a session what it does to its configuration. -/
theorem current_next_step (s : Session) (change : Change) :
    (s.next change.step).current = s.current.afterChange change := by
  match change with
  | .settingsFile _ => rfl
  | .otherFile => rfl

/-- To follow a settings file is to hold a session that reads it again at every change. -/
theorem map_snd_run_changes (s : Session) (history : List Change) :
    (s.run (history.map Change.step)).map Prod.snd = s.current.follow history := by
  induction history generalizing s with
  | nil => rfl
  | cons change history ih =>
    show (s.next change.step).current :: ((s.next change.step).run _).map Prod.snd = _
    rw [ih, current_next_step]
    rfl

/-- A good file puts its configuration in force, and leaves what was kept. -/
theorem next_refresh_of_describes (s : Session) {contents : Contents} {new : Configuration}
    (h : Settings.Describes contents new) :
    s.next (.refresh contents) = { s with current := new } :=
  congrArg (fun c ↦ { s with current := c }) (s.current.refresh_of_describes h)

/-- A bad file leaves a session as it is. -/
theorem next_refresh_of_bad (s : Session) {contents : Contents} (h : Settings.Bad contents) :
    s.next (.refresh contents) = s :=
  congrArg (fun c ↦ { s with current := c }) (s.current.refresh_of_bad h)

/-- Reading again succeeds at the good contents, and only there. -/
theorem answer_refresh_eq_true_iff (s : Session) {contents : Contents} :
    s.answer (.refresh contents) = .refreshed true ↔ ∃ new, Settings.Describes contents new := by
  refine ⟨fun h ↦ ?_, fun ⟨new, hnew⟩ ↦ s.answer_refresh_of_describes hnew⟩
  refine (Settings.bad_or_describes contents).resolve_left fun hbad ↦ ?_
  rw [s.answer_refresh_of_bad hbad] at h
  exact absurd (Answer.refreshed.inj h) (by decide)

/-- Reading again fails at the bad contents, and only there. -/
theorem answer_refresh_eq_false_iff (s : Session) {contents : Contents} :
    s.answer (.refresh contents) = .refreshed false ↔ Settings.Bad contents := by
  refine ⟨fun h ↦ ?_, s.answer_refresh_of_bad⟩
  refine (Settings.bad_or_describes contents).resolve_right fun ⟨new, hnew⟩ ↦ ?_
  rw [s.answer_refresh_of_describes hnew] at h
  exact absurd (Answer.refreshed.inj h) (by decide)

/-- **The last good settings stay in force.** A session that follows a settings file has in force,
behind every change, the latest configuration loaded so far. It takes over exactly the good ones, as
they are, and nothing at all from a bad one. If it starts with settings that were chosen, no empty
delimiter ever comes into force. -/
theorem run_changes_eq_latest (s : Session) :
    (∀ history, (s.run (history.map Change.step)).map Prod.snd = s.current.follow history) ∧
      (∀ before change rest k,
        (s.current.follow (before ++ change :: rest))[before.length]? = some k ↔
          Latest Change.Loads s.current (before ++ [change]) k) ∧
      (∀ files path new, Settings.load files path = .ok ⟨new, some path⟩ ↔
        Settings.Describes (files.read path) new) ∧
      (∀ contents, s.answer (.refresh contents) = .refreshed true ↔
        ∃ new, Settings.Describes contents new) ∧
      (∀ contents, s.answer (.refresh contents) = .refreshed false ↔ Settings.Bad contents) ∧
      (∀ contents new, Settings.Describes contents new →
        s.next (.refresh contents) = { s with current := new }) ∧
      (∀ contents, Settings.Bad contents → s.next (.refresh contents) = s) ∧
      (∀ files asked settings, Settings.choose files asked = .ok settings →
        s.current = settings.configuration →
          ∀ history, ∀ k ∈ s.current :: s.current.follow history, "" ∉ k.delimiters) := by
  refine ⟨s.map_snd_run_changes, fun before change rest k ↦ ?_, fun files path new ↦ ?_,
    fun _ ↦ s.answer_refresh_eq_true_iff, fun _ ↦ s.answer_refresh_eq_false_iff,
    fun _ _ ↦ s.next_refresh_of_describes, fun _ ↦ s.next_refresh_of_bad,
    fun files asked settings hchoose hcurrent history k hk ↦ ?_⟩
  · rw [Configuration.getElem?_follow, Option.some.injEq, Configuration.latest_loads_iff]
  · rw [Settings.load_eq_ok_iff]
    exact and_iff_left rfl
  · have hstart : "" ∉ s.current.delimiters := hcurrent ▸ Settings.empty_not_mem_of_choose hchoose
    obtain rfl | hk := List.mem_cons.1 hk
    · exact hstart
    · exact Configuration.empty_not_mem_of_mem_follow hstart hk

/-- The default settings are replaced by a file that gives a semicolon and an empty delimiter. The
semicolon is still in force after the file has made way for a directory, for a text that is not JSON
and for a record that has a delimiter of its own but names an unknown operation. -/
theorem run_changes_eq_latest_isDirectory :
    (start {}).next (.refresh (.ok (Delimiter.bytes "[[[\";\",\"\"]]]"))) =
        start { delimiters := [";"] } ∧
      (∀ contents ∈ [.error .isDirectory, .ok (Delimiter.bytes "[[[\"*\"]]"),
          .ok (Delimiter.bytes "[[[\"*\"],false,1000,\"^\"]]")],
        (start { delimiters := [";"] }).next (.refresh contents) = start { delimiters := [";"] } ∧
          (start { delimiters := [";"] }).answer (.refresh contents) = .refreshed false) ∧
      Latest Change.Loads {}
        ([.settingsFile (.ok (Delimiter.bytes "[[[\";\",\"\"]]]")), .otherFile,
            .settingsFile (.error .isDirectory),
            .settingsFile (.ok (Delimiter.bytes "[[[\"*\"]]"))] ++
          [.settingsFile (.ok (Delimiter.bytes "[[[\"*\"],false,1000,\"^\"]]"))])
        { delimiters := [";"] } ∧
      ∀ k ∈ ({} : Configuration).follow
          [.settingsFile (.ok (Delimiter.bytes "[[[\";\",\"\"]]]"))],
        "" ∉ k.delimiters := by
  have hdescribes : Settings.Describes (.ok (Delimiter.bytes "[[[\";\",\"\"]]]"))
      { delimiters := [";"] } := Settings.ofContents_eq_ok_iff.1 (by decide +kernel)
  have hbad : ∀ contents ∈ [.error .isDirectory, .ok (Delimiter.bytes "[[[\"*\"]]"),
      .ok (Delimiter.bytes "[[[\"*\"],false,1000,\"^\"]]")], Settings.Bad contents := by
    simp only [List.mem_cons, List.not_mem_nil, or_false]
    rintro contents (rfl | rfl | rfl)
    · exact .unreadable
    · exact .notJson (decode?_bytes _) (by decide +kernel)
    · obtain ⟨j, hj⟩ := Option.isSome_iff_exists.1 (show (Json.ofText?
        "[[[\"*\"],false,1000,\"^\"]]").isSome = true by decide +kernel)
      have hno : (Json.ofText? "[[[\"*\"],false,1000,\"^\"]]").bind Settings.ofJson? = none := by
        decide +kernel
      rw [hj] at hno
      exact .notSettings (decode?_bytes _) hj hno
  obtain ⟨-, hlatest, -, -, -, htaken, -, hchosen⟩ := run_changes_eq_latest (start {})
  obtain ⟨-, -, -, -, hrefused, -, hleft, -⟩ :=
    run_changes_eq_latest (start { delimiters := [";"] })
  have hchoose : Settings.choose ⟨fun _ ↦ .error .missing, fun _ ↦ false⟩ none =
      .ok ⟨{}, none⟩ := by decide +kernel
  exact ⟨htaken _ _ hdescribes,
    fun contents hcontents ↦ ⟨hleft _ (hbad _ hcontents), (hrefused _).2 (hbad _ hcontents)⟩,
    (hlatest _ _ [] _).1 (by decide +kernel),
    fun k hk ↦ hchosen _ _ _ hchoose rfl _ k (List.mem_cons_of_mem _ hk)⟩

end Session

end StringCalculator
