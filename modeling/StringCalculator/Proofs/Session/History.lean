import StringCalculator.Proofs.Settings
import StringCalculator.Session

/-!
# Sessions and their histories

What a session answers, told from the steps before alone. A session carries two things along, the
configuration in force and the kept ones. Neither of them is needed to know its answers: the
configuration in force is the latest one that a step brought (`InForce`), and the one kept under a
name is the one that was in force when that name was last used for keeping (`KeptUnder`). What
happens afterwards does not reach it, since configurations are values.

`Answered` gives the answer to each kind of step in these terms, and `run_eq_history` says that a
session gives these answers at every place of every run.

Only a new configuration or a good settings file changes what is in force. All other steps read, so
they may be left out without being missed (`Thinned`): the answers to what is left stay the same. A
step that looks at a kept configuration needs the step that kept it, and no other.
-/

namespace StringCalculator

namespace Session

/-- A session begins with a configuration in force, and with none kept. -/
def start (c : Configuration) : Session :=
  { current := c }

/-! ### What a step does -/

/-- The configuration that a step brings into force. -/
inductive Step.Brings : Step → Configuration → Prop
  /-- A new one comes into force as it is. -/
  | adopt {new : Configuration} : Step.Brings (.adopt new false) new
  /-- It leaves its empty delimiters behind if asked. -/
  | adoptWithoutEmpty {new : Configuration} :
      Step.Brings (.adopt new true) new.withoutEmptyDelimiters
  /-- A settings file brings what it describes. -/
  | refresh {contents : Contents} {new : Configuration}
      (describes : Settings.Describes contents new) : Step.Brings (.refresh contents) new

/-- Whether a step leaves the configuration in force alone: it calculates, answers, converses, looks
or keeps. -/
def Step.reads : Step → Bool
  | .adopt _ _ => false
  | .refresh _ => false
  | _ => true

/-- The name of the kept configuration that a step looks at. -/
def Step.keptName? : Step → Option String
  | .calculateKept name _ => some name
  | _ => none

section

variable (s : Session) {step : Step}

/-- What a step brings is in force behind it. -/
theorem current_next_of_brings {k : Configuration} (h : step.Brings k) :
    (s.next step).current = k := by
  cases h with
  | adopt => rfl
  | adoptWithoutEmpty => rfl
  | refresh hdescribes => exact s.current.refresh_of_describes hdescribes

/-- A step that brings nothing changes nothing in force. -/
theorem current_next_of_not_brings (h : ∀ k, ¬step.Brings k) :
    (s.next step).current = s.current := by
  cases step with
  | adopt new dropEmpty =>
    cases dropEmpty with
    | false => exact absurd .adopt (h new)
    | true => exact absurd .adoptWithoutEmpty (h new.withoutEmptyDelimiters)
  | refresh contents =>
    exact s.current.refresh_of_bad (Settings.bad_iff.2 fun new hnew ↦ h new (.refresh hnew))
  | _ => rfl

/-- A step that reads brings nothing. -/
theorem current_next_of_reads (h : step.reads = true) : (s.next step).current = s.current := by
  cases step with
  | adopt new dropEmpty => cases h
  | refresh contents => cases h
  | _ => rfl

theorem answer_refresh_of_describes {contents : Contents} {new : Configuration}
    (h : Settings.Describes contents new) : s.answer (.refresh contents) = .refreshed true := by
  rw [answer, Settings.ofContents_eq_ok_iff.2 h]
  rfl

theorem answer_refresh_of_bad {contents : Contents} (h : Settings.Bad contents) :
    s.answer (.refresh contents) = .refreshed false := by
  rw [answer, Settings.isOk_ofContents_of_bad h]

/-- What is in force when it is kept is what is kept. -/
theorem kept?_next_keep (name : String) : (s.next (.keep name)).kept? name = some s.current := by
  simp [next, kept?]

/-- No other step changes what is kept under a name. -/
theorem kept?_next_of_ne {name : String} (h : step ≠ .keep name) :
    (s.next step).kept? name = s.kept? name := by
  cases step with
  | keep other =>
    have hne : (name == other) = false := by
      rw [beq_eq_false_iff_ne]
      rintro rfl
      exact h rfl
    simp [next, kept?, List.lookup_cons, hne]
  | _ => rfl

end

/-! ### What is in force, and what is kept -/

/-- The configuration in force behind a row of steps: the latest one that a step brought, or the one
from before. -/
def InForce (c : Configuration) (steps : List Step) (k : Configuration) : Prop :=
  Latest Step.Brings c steps k

/-- The configuration kept under a name behind a row of steps: the one that was in force when the
name was last used for keeping. -/
inductive KeptUnder (c : Configuration) (name : String) : List Step → Configuration → Prop
  | intro {earlier later : List Step} {k : Configuration} (inForce : InForce c earlier k)
      (last : .keep name ∉ later) : KeptUnder c name (earlier ++ .keep name :: later) k

section

variable {c k : Configuration} {steps : List Step}

/-- The configuration that is current is the latest one brought. -/
theorem inForce_iff {s : Session} : InForce s.current steps k ↔ (s.after steps).current = k :=
  latest_iff_foldl (fun s _ _ h ↦ s.current_next_of_brings h) fun s _ h ↦
    s.current_next_of_not_brings h

theorem after_append (s : Session) (before later : List Step) :
    s.after (before ++ later) = (s.after before).after later := by
  rw [after, List.foldl_append]
  rfl

/-- Steps that keep nothing under a name leave what is kept under it. -/
theorem kept?_after_of_not_mem {name : String} (h : .keep name ∉ steps) (s : Session) :
    (s.after steps).kept? name = s.kept? name := by
  induction steps generalizing s with
  | nil => rfl
  | cons step steps ih =>
    rw [List.mem_cons, not_or] at h
    show ((s.next step).after steps).kept? name = s.kept? name
    rw [ih h.2, s.kept?_next_of_ne (Ne.symm h.1)]

/-- What should be kept under a name is found there. -/
theorem KeptUnder.kept?_after {name : String} (h : KeptUnder c name steps k) :
    ((start c).after steps).kept? name = some k := by
  obtain ⟨hinForce, hlast⟩ := h
  rw [after_append]
  show ((((start c).after _).next (.keep name)).after _).kept? name = some k
  rw [kept?_after_of_not_mem hlast, kept?_next_keep, inForce_iff.1 hinForce]

/-- What is found under a name is what should be kept there. -/
theorem keptUnder_of_kept?_after {name : String}
    (h : ((start c).after steps).kept? name = some k) : KeptUnder c name steps k := by
  induction steps using List.reverseRecOn with
  | nil => cases h
  | append_singleton steps step ih =>
    rw [after_append] at h
    by_cases hstep : step = .keep name
    · subst hstep
      rw [show after _ [Step.keep name] = next _ (.keep name) from rfl, kept?_next_keep] at h
      exact .intro (inForce_iff.2 (Option.some.inj h)) List.not_mem_nil
    · rw [show after _ [step] = next _ step from rfl, kept?_next_of_ne _ hstep] at h
      -- one more step behind the one that kept it
      obtain ⟨hinForce, hlast⟩ := ih h
      rw [List.append_assoc, List.cons_append]
      refine .intro hinForce fun hmem ↦ ?_
      rcases List.mem_append.1 hmem with hmem | hmem
      · exact hlast hmem
      · exact hstep (List.mem_singleton.1 hmem).symm

/-- What is kept under a name is what was in force at the latest step that kept something under it.
-/
theorem keptUnder_iff {name : String} :
    KeptUnder c name steps k ↔ ((start c).after steps).kept? name = some k :=
  ⟨KeptUnder.kept?_after, keptUnder_of_kept?_after⟩

end

/-! ### Answers -/

/-- The answer to a step behind a row of steps. -/
inductive Answered (c : Configuration) (before : List Step) : Step → Answer → Prop
  | look : Answered c before .look .silent
  | adopt {new : Configuration} {dropEmpty : Bool} :
      Answered c before (.adopt new dropEmpty) .silent
  | keep {name : String} : Answered c before (.keep name) .silent
  /-- A good settings file is taken over. -/
  | refreshed {contents : Contents} {new : Configuration}
      (describes : Settings.Describes contents new) :
      Answered c before (.refresh contents) (.refreshed true)
  /-- A bad one is not. -/
  | notRefreshed {contents : Contents} (bad : Settings.Bad contents) :
      Answered c before (.refresh contents) (.refreshed false)
  /-- A text is calculated under the configuration in force. -/
  | calculate {k : Configuration} {text : String} (inForce : InForce c before k) :
      Answered c before (.calculate text) (.outcome (k.calculate text) (k.value text))
  /-- It may be calculated under a kept configuration instead. -/
  | calculateKept {k : Configuration} {name text : String} (kept : KeptUnder c name before k) :
      Answered c before (.calculateKept name text) (.keptOutcome (some (k, k.calculate text)))
  /-- Nothing is said of a configuration that was not kept. -/
  | notKept {name text : String} (not_kept : ∀ k, ¬KeptUnder c name before k) :
      Answered c before (.calculateKept name text) (.keptOutcome none)
  /-- A line is calculated under the configuration in force. -/
  | line {k : Configuration} {line : String} (inForce : InForce c before k) :
      Answered c before (.line line) (.reported ⟨k.calculate (expand line)⟩)
  /-- So are all lines of a conversation. -/
  | converse {k : Configuration} {input : List UInt8} (inForce : InForce c before k) :
      Answered c before (.converse input) (.conversation (Console.transcript k input))

/-- Every step is answered as it should be: under what is in force, or under what was kept. -/
theorem answered_answer_after (c : Configuration) (before : List Step) (step : Step) :
    Answered c before step (((start c).after before).answer step) := by
  have hinForce : InForce c before ((start c).after before).current :=
    (inForce_iff (s := start c)).2 rfl
  cases step with
  | look => exact .look
  | adopt new dropEmpty => exact .adopt
  | keep name => exact .keep
  | refresh contents =>
    rcases Settings.bad_or_describes contents with hbad | ⟨new, hnew⟩
    · rw [answer_refresh_of_bad _ hbad]
      exact .notRefreshed hbad
    · rw [answer_refresh_of_describes _ hnew]
      exact .refreshed hnew
  | calculate text => exact .calculate hinForce
  | calculateKept name text =>
    rw [answer]
    rcases hkept : ((start c).after before).kept? name with - | k
    · refine .notKept fun k hk ↦ ?_
      rw [keptUnder_iff.1 hk] at hkept
      cases hkept
    · exact .calculateKept (keptUnder_iff.2 hkept)
  | line line => exact .line hinForce
  | converse input => exact .converse hinForce

/-- What a run has at a place comes from the steps up to there. -/
theorem getElem?_run (s : Session) (before : List Step) (step : Step) (rest : List Step) :
    (s.run (before ++ step :: rest))[before.length]? =
      some ((s.after before).answer step, (s.after (before ++ [step])).current) := by
  induction before generalizing s with
  | nil => rfl
  | cons x xs ih =>
    rw [List.cons_append, run, List.length_cons, List.getElem?_cons_succ, ih]
    rfl

/-! ### Leaving out steps that read -/

/-- What may be left of a row of steps when some that read are taken out. Under the needed name, if
there is one, the last step that keeps a configuration has to stay. -/
inductive Thinned (needed : Option String) : List Step → List Step → Prop
  | nil : Thinned needed [] []
  /-- Any step may stay. -/
  | stay {step : Step} {steps left : List Step} (rest : Thinned needed steps left) :
      Thinned needed (step :: steps) (step :: left)
  /-- A step that reads may be taken out, unless it keeps what is needed. -/
  | leave {step : Step} {steps left : List Step} (reads : step.reads = true)
      (unneeded : ∀ name ∈ needed, step = .keep name → .keep name ∈ steps)
      (rest : Thinned needed steps left) : Thinned needed (step :: steps) left

/-- Whether two sessions have the same configuration in force, and the same one under a name. -/
structure Agree (needed : Option String) (s s' : Session) : Prop where
  /-- The same configuration is in force. -/
  current : s.current = s'.current
  /-- The same one is kept under the name, if there is a name. -/
  kept : ∀ name ∈ needed, s.kept? name = s'.kept? name

/-- Sessions that agree about what a step looks at give it the same answer. -/
theorem Agree.answer_eq {s s' : Session} {step : Step} (h : Agree step.keptName? s s') :
    s.answer step = s'.answer step := by
  cases step with
  | calculateKept name text => rw [answer, answer, h.kept name rfl]
  | _ => simp only [answer, h.current]

/-- Sessions with the same configuration in force have the same one behind a step. -/
theorem Agree.current_next {needed : Option String} {s s' : Session} (h : Agree needed s s')
    (step : Step) : (s.next step).current = (s'.next step).current := by
  cases step <;> simp only [next, h.current]

/-- Two sessions come to agree over the same steps but for some that are left out, if they agree
about what no step keeps. -/
theorem Thinned.agree {needed : Option String} {steps left : List Step}
    (h : Thinned needed steps left) {s s' : Session} (hcurrent : s.current = s'.current)
    (hkept : ∀ name ∈ needed, .keep name ∉ steps → s.kept? name = s'.kept? name) :
    Agree needed (s.after steps) (s'.after left) := by
  induction h generalizing s s' with
  | nil => exact ⟨hcurrent, fun name hname ↦ hkept name hname List.not_mem_nil⟩
  | @stay step steps left _ ih =>
    have hagree : Agree none s s' := ⟨hcurrent, fun _ hname ↦ nomatch hname⟩
    refine ih (hagree.current_next step) fun name hname hnot ↦ ?_
    by_cases hstep : step = .keep name
    · rw [hstep, kept?_next_keep, kept?_next_keep, hcurrent]
    · rw [kept?_next_of_ne s hstep, kept?_next_of_ne s' hstep]
      exact hkept name hname (List.not_mem_cons_of_ne_of_not_mem (Ne.symm hstep) hnot)
  | @leave step steps left hreads hunneeded _ ih =>
    refine ih ((s.current_next_of_reads hreads).trans hcurrent) fun name hname hnot ↦ ?_
    have hstep : step ≠ .keep name := fun heq ↦ hnot (hunneeded name hname heq)
    rw [kept?_next_of_ne s hstep]
    exact hkept name hname (List.not_mem_cons_of_ne_of_not_mem (Ne.symm hstep) hnot)

/-- Leaving out steps that read does not show at a place behind them. -/
theorem getElem?_run_of_thinned {s : Session} {before before' : List Step} {step : Step}
    (h : Thinned step.keptName? before before') (rest rest' : List Step) :
    (s.run (before' ++ step :: rest'))[before'.length]? =
      (s.run (before ++ step :: rest))[before.length]? := by
  have hagree : Agree step.keptName? (s.after before) (s.after before') :=
    h.agree rfl fun _ _ _ ↦ rfl
  rw [getElem?_run, getElem?_run, hagree.answer_eq, after_append, after_append]
  exact congrArg (fun k ↦ some (_, k)) (hagree.current_next step).symm

/-- **A session is what its history says.** At every place of a run the configuration in force is
the latest one brought, and what was kept under a name is what was in force at that time. Every
answer is given under one of the two. Steps that read change no configuration in force, and they may
be left out without being missed by any other step, save the one that kept what a step looks at. -/
theorem run_eq_history (c : Configuration) (before : List Step) (step : Step) (rest : List Step) :
    (∀ k, InForce c before k ↔ ((start c).after before).current = k) ∧
      (∀ name k, KeptUnder c name before k ↔ ((start c).after before).kept? name = some k) ∧
      (∃ answer k, ((start c).run (before ++ step :: rest))[before.length]? = some (answer, k) ∧
        Answered c before step answer ∧ InForce c (before ++ [step]) k) ∧
      (step.reads = true →
        ((start c).after (before ++ [step])).current = ((start c).after before).current) ∧
      (∀ before' rest', Thinned step.keptName? before before' →
        ((start c).run (before' ++ step :: rest'))[before'.length]? =
          ((start c).run (before ++ step :: rest))[before.length]?) := by
  refine ⟨fun k ↦ inForce_iff (s := start c), fun name k ↦ keptUnder_iff, ?_, fun h ↦ ?_,
    fun before' rest' h ↦ getElem?_run_of_thinned h rest rest'⟩
  · exact ⟨_, _, getElem?_run (start c) before step rest, answered_answer_after c before step,
      (inForce_iff (s := start c)).2 rfl⟩
  · rw [after_append]
    exact current_next_of_reads _ h

/-- A sum is kept before the product comes into force. What is kept stays the sum, and the line in
between may be left out. -/
theorem run_eq_history_calculateKept :
    KeptUnder {} "a" [.keep "a", .adopt { operation := .product } false, .line "1"] {} ∧
      ((start {}).after [.line "1"]).current = {} ∧
      ((start {}).run ([.keep "a", .adopt { operation := .product } false] ++
          [.calculateKept "a" "2,3"]))[2]? =
        ((start {}).run ([.keep "a", .adopt { operation := .product } false, .line "1"] ++
          [.calculateKept "a" "2,3"]))[3]? := by
  have hhistory := run_eq_history {}
    [.keep "a", .adopt { operation := .product } false, .line "1"] (.calculateKept "a" "2,3") []
  obtain ⟨-, hkept, -, -, hthinned⟩ := hhistory
  refine ⟨(hkept "a" {}).2 rfl, (run_eq_history {} [] (.line "1") []).2.2.2.1 rfl, ?_⟩
  exact hthinned _ [] (.stay (.stay (.leave rfl (fun _ _ h ↦ nomatch h) .nil)))

/-- Without the last step that kept it, what is looked at is the sum that was kept before, and not
the product. -/
theorem run_without_last_keep_ne :
    (Step.keep "a").reads = true ∧
      (((start {}).run ([.keep "a", .adopt { operation := .product } false] ++
          [.calculateKept "a" "2,3"]))[2]?).map Prod.fst ≠
        (((start {}).run ([.keep "a", .adopt { operation := .product } false, .keep "a"] ++
          [.calculateKept "a" "2,3"]))[3]?).map Prod.fst := by
  refine ⟨rfl, fun h ↦ ?_⟩
  -- the two answers already name different configurations
  have hkept : ({} : Configuration) = { operation := .product } :=
    congrArg Prod.fst (Option.some.inj (Answer.keptOutcome.inj (Option.some.inj h)))
  exact absurd hkept (by decide)

end Session

end StringCalculator
