import StringCalculator.Proofs.Calculation.Expression
import StringCalculator.Proofs.Console.Transcript
import StringCalculator.Proofs.Program.Choice
import StringCalculator.Proofs.Record

/-!
# One line, two ways

A line can be calculated in a run of its own, or typed at the console. The two say the same
(`run_calculate_agrees_run_converse`): a result is printed as it is by both; a fault makes the first
run fail with its message, and at the console the message is the answer, behind two words that tell
the kind of the fault, and the conversation goes on.

Nothing but the answer is needed to tell which of the two happened, since an equation begins with a
digit or a minus sign and never like a complaint (`equation_ne_append`). What the console reads as
one line is a text without a line feed, which would end it, that does not end in a return, which
would be taken off together with the line feed (`chunks_of_soleLine`, `isLine_of_soleLine`).
-/

namespace StringCalculator

/-! ### Results and complaints -/

/-- Whether an answer at the console says that something is wrong, and what. -/
inductive Complains (answer message : String) : Prop
  /-- The user made a mistake. -/
  | argument (eq : answer = "Argument error: " ++ message)
  /-- Something else went wrong. -/
  | unexpected (eq : answer = "Unexpected error: " ++ message)

/-- Texts that begin with different characters are different. -/
theorem append_ne_append {s t u v : String} {a b : Char} (hs : s.toList.head? = some a)
    (ht : t.toList.head? = some b) (hab : a ≠ b) : s ++ u ≠ t ++ v := by
  intro heq
  have hhead := congrArg (fun w : String ↦ w.toList.head?) heq
  simp only [String.toList_append, List.head?_append, hs, ht, Option.some_or,
    Option.some.injEq] at hhead
  exact hab hhead

/-- An equation begins like a number. -/
theorem Evaluation.equation_ne_append (e : Evaluation) {s : String} {a : Char}
    (hs : s.toList.head? = some a) (ha : ¬(a.isDigit = true ∨ a = '-')) (m : String) :
    e.equation ≠ s ++ m := by
  obtain ⟨c, r, hcr, hc⟩ := e.exists_toList_expression_eq_cons
  rw [equation, String.append_assoc]
  refine append_ne_append (by rw [hcr, List.head?_cons]) hs ?_
  rintro rfl
  exact ha hc

/-- The user is blamed for negative numbers, and for nothing else. -/
theorem report_eq_argument_iff {outcome : Except Fault Evaluation} {m : String} :
    report outcome = "Argument error: " ++ m ↔
      ∃ values, outcome = .error (.negatives values) ∧ (Fault.negatives values).message = m := by
  rcases outcome with f | e
  · cases f with
    | negatives values => exact (String.append_right_inj _).trans (by simp)
    | divisionByZero dividend =>
      exact iff_of_false (append_ne_append rfl rfl (by decide)) (by simp)
    | overflow op => exact iff_of_false (append_ne_append rfl rfl (by decide)) (by simp)
  · exact iff_of_false (e.equation_ne_append rfl (by decide) m) (by simp)

/-- Any other fault is unexpected. -/
theorem report_eq_unexpected_iff {outcome : Except Fault Evaluation} {m : String} :
    report outcome = "Unexpected error: " ++ m ↔
      ∃ f, outcome = .error f ∧ (∀ values, f ≠ .negatives values) ∧ f.message = m := by
  rcases outcome with f | e
  · cases f with
    | negatives values =>
      exact iff_of_false (append_ne_append rfl rfl (by decide)) (by simp)
    | divisionByZero dividend => exact (String.append_right_inj _).trans (by simp)
    | overflow op => exact (String.append_right_inj _).trans (by simp)
  · exact iff_of_false (e.equation_ne_append rfl (by decide) m) (by simp)

/-- Answers complain about faults, with their messages, and about nothing else. -/
theorem complains_report_iff {outcome : Except Fault Evaluation} {m : String} :
    Complains (report outcome) m ↔ ∃ f, outcome = .error f ∧ f.message = m := by
  constructor
  · rintro (h | h)
    · obtain ⟨values, houtcome, hm⟩ := report_eq_argument_iff.1 h
      exact ⟨_, houtcome, hm⟩
    · obtain ⟨f, houtcome, -, hm⟩ := report_eq_unexpected_iff.1 h
      exact ⟨f, houtcome, hm⟩
  · rintro ⟨f, rfl, rfl⟩
    by_cases hf : ∃ values, f = .negatives values
    · obtain ⟨values, rfl⟩ := hf
      exact .argument (report_eq_argument_iff.2 ⟨values, rfl, rfl⟩)
    · exact .unexpected (report_eq_unexpected_iff.2 ⟨f, rfl, not_exists.1 hf, rfl⟩)

/-- An answer that is no complaint is the equation of a result. -/
theorem report_eq_and_not_complains_iff {outcome : Except Fault Evaluation} {r : String} :
    (report outcome = r ∧ ∀ m, ¬Complains (report outcome) m) ↔
      ∃ e, outcome = .ok e ∧ e.equation = r := by
  simp only [complains_report_iff]
  rcases outcome with f | e
  · simp
  · show e.equation = r ∧ _ ↔ _
    simp

/-! ### Single lines -/

/-- The inputs with one line in them. The line feed may be missing at the end of the input, but an
empty line is no line without one. -/
inductive SoleLine (line : String) : List UInt8 → Prop
  /-- The line is ended. -/
  | ended : SoleLine line (Delimiter.bytes (line ++ "\n"))
  /-- The input is. -/
  | unended (ne_empty : line ≠ "") : SoleLine line (Delimiter.bytes line)

section

variable {line : String} {input : List UInt8}

theorem lineFeed_not_mem_bytes (hfeed : '\n' ∉ line.toList) : lineFeed ∉ Delimiter.bytes line := by
  rw [Delimiter.bytes_eq_utf8]
  exact fun h ↦ hfeed ((mem_utf8_iff (by decide)).1 h)

/-- An input with a single line is a single chunk. -/
theorem chunks_of_soleLine (h : SoleLine line input) (hfeed : '\n' ∉ line.toList) :
    chunks input = [input] := by
  have hno := lineFeed_not_mem_bytes hfeed
  cases h with
  | ended =>
    have hbytes : Delimiter.bytes (line ++ "\n") = Delimiter.bytes line ++ [lineFeed] := by
      simp only [Delimiter.bytes_eq_utf8, String.toList_append, utf8_append]
      rfl
    rw [hbytes]
    exact chunks_append_feed hno []
  | unended hne =>
    have hempty : Delimiter.bytes "" = [] := Delimiter.bytes_eq_utf8 ""
    exact chunks_of_feed_not_mem
      (fun hnil ↦ hne (Delimiter.bytes_injective (hnil.trans hempty.symm))) hno

/-- The line in an input with a single one is this line. -/
theorem isLine_of_soleLine (h : SoleLine line input) (hfeed : '\n' ∉ line.toList)
    (hreturn : '\r' ∉ line.toList.getLast?) :
    ∃ text, decode? input = some text ∧ IsLine text line := by
  have hlast : '\n' ∉ line.toList.getLast? := fun h ↦ hfeed (List.mem_of_getLast? h)
  cases h with
  | ended => exact ⟨_, decode?_bytes _, ⟨"\n", rfl, by simp⟩, hlast, hreturn⟩
  | unended _ => exact ⟨_, decode?_bytes _, ⟨"", by simp, nofun⟩, hlast, hreturn⟩

namespace Console

/-- Everything that is written when a single line is answered. -/
def sole (answer : String) : String :=
  opening ++ exchange [answer] ++ prompt ++ "\n"

/-- The answer can be told from what is written. -/
theorem sole_inj {a b : String} : sole a = sole b ↔ a = b := by
  simp only [sole, exchange, List.map_cons, List.map_nil, String.join_cons, String.append_left_inj,
    String.append_right_inj]

/-- A single line is answered with the report of its outcome. -/
theorem transcript_of_soleLine (c : Configuration) (h : SoleLine line input)
    (hfeed : '\n' ∉ line.toList) (hreturn : '\r' ∉ line.toList.getLast?) :
    transcript c input = ⟨sole (report (c.calculateLine line)), .complete⟩ := by
  obtain ⟨text, htext, hline⟩ := isLine_of_soleLine h hfeed hreturn
  have hreplies : List.Forall₂ c.Replies [input] [report (c.calculateLine line)] :=
    .cons (.intro htext hline) .nil
  rw [transcript, chunks_of_soleLine h hfeed, ← List.append_nil [input], converse_append hreplies]
  simp only [converse, close, Ending.text, sole, String.append_assoc]

end Console

end

/-! ### Runs -/

namespace Program

section

variable {files : Files} {settings : Settings}

/-- Without options, a line is calculated and its equation printed. -/
theorem run_eval (h : Settings.choose files none = .ok settings) (input : List UInt8)
    (line : String) :
    run files input ["eval", "--", line] = calculate settings.configuration line false := by
  rw [run_of_read (i := ⟨none, false, .calculate line false⟩) rfl, invoke_calculate h]

/-- With the option for it, the result is printed as JSON. -/
theorem run_eval_json (h : Settings.choose files none = .ok settings) (input : List UInt8)
    (line : String) :
    run files input ["eval", "--json", "--", line] =
      calculate settings.configuration line true := by
  rw [run_of_read (i := ⟨none, false, .calculate line true⟩) rfl, invoke_calculate h]

/-- The console holds one conversation. -/
theorem run_repl (h : Settings.choose files none = .ok settings) (input : List UInt8) :
    run files input ["repl"] = converse settings.configuration input := by
  rw [run_of_read (i := ⟨none, false, .converse⟩) rfl, invoke_converse h]

end

section

variable {c : Configuration} {line : String}

/-- A calculation succeeds with the equation of a result. -/
theorem calculate_eq_success_iff {r : String} :
    calculate c line false = { exit := 0, output := r ++ "\n", complaint := none } ↔
      ∃ e, c.calculateLine line = .ok e ∧ e.equation = r := by
  rw [calculate]
  rcases c.calculateLine line with f | e
  · simp [Report.failure]
  · simp [Report.success]

/-- A calculation fails with the message of a fault, in whatever form its result is asked for. -/
theorem calculate_eq_failure_iff {json : Bool} {m : String} :
    calculate c line json = { exit := 1, output := "", complaint := some ("Error: " ++ m) } ↔
      ∃ f, c.calculateLine line = .error f ∧ f.message = m := by
  rw [calculate]
  rcases c.calculateLine line with f | e
  · simp [Report.failure, String.append_right_inj]
  · simp [Report.success]

/-- A conversation about a single line succeeds, and its output tells the answer. -/
theorem converse_of_soleLine_eq_iff {input : List UInt8} (h : SoleLine line input)
    (hfeed : '\n' ∉ line.toList) (hreturn : '\r' ∉ line.toList.getLast?) {answer : String} :
    converse c input = { exit := 0, output := Console.sole answer, complaint := none } ↔
      answer = report (c.calculateLine line) := by
  rw [converse, Console.transcript_of_soleLine c h hfeed hreturn]
  simp [conclude, Report.success, Console.sole_inj, eq_comm]

/-- A conversation fails as a run if and only if something in its input is not text, whatever faults
its answers are about. -/
theorem exit_converse_eq_zero_iff {input : List UInt8} :
    (converse c input).exit = 0 ↔ ∀ chunk ∈ chunks input, decode? chunk ≠ none := by
  rw [← @Console.ending_converse_eq_complete_iff c]
  show (conclude _ (Console.converse c (chunks input)).ending).exit = 0 ↔ _
  rcases (Console.converse c (chunks input)).ending with - | -
  · exact iff_of_true rfl rfl
  · exact iff_of_false Nat.one_ne_zero (by decide)

end

/-- **A line says the same in a run of its own and at the console.** The console answers it, goes on
and ends well. If the answer is no complaint, it is what the run prints, and the run ends well too;
otherwise the run prints nothing and fails with the message in the complaint. Complaints about
negative numbers and about other faults are told apart by how they begin. The result in JSON is the
one that the equation shows. -/
theorem run_calculate_agrees_run_converse {files : Files} {settings : Settings}
    (hsettings : Settings.choose files none = .ok settings) {line : String}
    (hfeed : '\n' ∉ line.toList) (hreturn : '\r' ∉ line.toList.getLast?) {input : List UInt8}
    (hinput : SoleLine line input) (other : List UInt8) :
    ∃ answer,
      (∀ a, run files input ["repl"] =
          { exit := 0, output := Console.sole a, complaint := none } ↔ a = answer) ∧
      (∀ r, run files other ["eval", "--", line] =
          { exit := 0, output := r ++ "\n", complaint := none } ↔
        answer = r ∧ ∀ m, ¬Complains answer m) ∧
      (∀ m, run files other ["eval", "--", line] =
          { exit := 1, output := "", complaint := some ("Error: " ++ m) } ↔ Complains answer m) ∧
      (∀ m, answer = "Argument error: " ++ m ↔
        ∃ values, settings.configuration.calculateLine line = .error (.negatives values) ∧
          (Fault.negatives values).message = m) ∧
      (∀ m, answer = "Unexpected error: " ++ m ↔
        ∃ f, settings.configuration.calculateLine line = .error f ∧
          (∀ values, f ≠ .negatives values) ∧ f.message = m) ∧
      (∀ r, run files other ["eval", "--", line] =
          { exit := 0, output := r ++ "\n", complaint := none } →
        ∃ e json, settings.configuration.calculateLine line = .ok e ∧ e.equation = r ∧
          run files other ["eval", "--json", "--", line] =
            { exit := 0, output := json ++ "\n", complaint := none } ∧
          Evaluation.ofJsonText? json = some e) ∧
      (∀ m, run files other ["eval", "--json", "--", line] =
          { exit := 1, output := "", complaint := some ("Error: " ++ m) } ↔
        run files other ["eval", "--", line] =
          { exit := 1, output := "", complaint := some ("Error: " ++ m) }) := by
  rw [run_eval hsettings, run_eval_json hsettings, run_repl hsettings]
  refine ⟨report (settings.configuration.calculateLine line),
    fun a ↦ converse_of_soleLine_eq_iff hinput hfeed hreturn, fun r ↦ ?_, fun m ↦ ?_,
    fun m ↦ report_eq_argument_iff, fun m ↦ report_eq_unexpected_iff, fun r hr ↦ ?_, fun m ↦ ?_⟩
  · rw [calculate_eq_success_iff, report_eq_and_not_complains_iff]
  · rw [calculate_eq_failure_iff, complains_report_iff]
  · obtain ⟨e, he, rfl⟩ := calculate_eq_success_iff.1 hr
    refine ⟨e, e.toWideJsonText, he, rfl, ?_, e.ofJsonText?_toWideJsonText⟩
    rw [calculate, he]
    rfl
  · rw [calculate_eq_failure_iff, calculate_eq_failure_iff]

/-- A division by zero under a settings file, typed without a line feed. The run for it ends with
the status of a failure, the console with that of a success. -/
theorem run_calculate_agrees_run_converse_quotient :
    run (FileTree.ofPaths [("appsettings.json", .file (Delimiter.bytes
          "\x7b\"CalculatorSettings\":\x7b\"operation\":\"/\"\x7d\x7d"))]).files
        (Delimiter.bytes "8,0") ["repl"] =
        { exit := 0,
          output := "--- String Calculator Console ---\n" ++
            "Enter the string of numbers (or press Ctrl+D to exit):\n" ++
            "> Unexpected error: Attempted to divide by zero (dividend 8)\n> \n",
          complaint := none } ∧
      run (FileTree.ofPaths [("appsettings.json", .file (Delimiter.bytes
          "\x7b\"CalculatorSettings\":\x7b\"operation\":\"/\"\x7d\x7d"))]).files
        [] ["eval", "--", "8,0"] =
        { exit := 1, output := "",
          complaint := some "Error: Attempted to divide by zero (dividend 8)" } := by
  have hsettings : Settings.choose (FileTree.ofPaths [("appsettings.json", .file (Delimiter.bytes
      "\x7b\"CalculatorSettings\":\x7b\"operation\":\"/\"\x7d\x7d"))]).files none =
      .ok ⟨{ operation := .quotient }, some "appsettings.json"⟩ := by decide +kernel
  have hcalculate : ({ operation := .quotient } : Configuration).calculateLine "8,0" =
      .error (.divisionByZero (Number.ofToken "8")) := by decide +kernel
  obtain ⟨answer, hrepl, -, hfails, -, hunexpected, -⟩ :=
    @run_calculate_agrees_run_converse _ _ hsettings "8,0" (by decide) (by decide) _
      (.unended (by decide)) []
  have hanswer := (hunexpected _).2 ⟨_, hcalculate, nofun, rfl⟩
  have houtput : Console.sole "Unexpected error: Attempted to divide by zero (dividend 8)" =
      "--- String Calculator Console ---\n" ++
        "Enter the string of numbers (or press Ctrl+D to exit):\n" ++
        "> Unexpected error: Attempted to divide by zero (dividend 8)\n> \n" := by decide +kernel
  have hcomplaint : "Error: " ++ "Attempted to divide by zero (dividend 8)" =
      "Error: Attempted to divide by zero (dividend 8)" := by decide +kernel
  rw [← houtput, ← hcomplaint]
  exact ⟨(hrepl _).2 hanswer.symm, (hfails _).2 (.unexpected hanswer)⟩

end Program

end StringCalculator
