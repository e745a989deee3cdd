import StringCalculator.Proofs.Console.Chunks
import StringCalculator.Proofs.Number

/-!
# Transcripts

What a conversation writes, and where it ends. Every chunk that is text is answered on a line of its
own, behind a prompt, whether its calculation succeeds or not; the first chunk that is not text ends
the conversation behind its prompt, and what was written before stays written
(`transcript_of_chunks`).

`Replies` says what the answer to one chunk is, from the bytes to the written line. An answer never
holds a line feed (`feed_not_mem_report`): it is made of numbers, operations and fixed words. So the
lines of a transcript can be counted.
-/

namespace StringCalculator

/-! ### Answers are single lines -/

theorem Number.feed_not_mem_toText (n : Number) : '\n' ∉ n.toText.toList :=
  n.not_mem_toText (by decide) (by decide)

theorem not_mem_toList_append {c : Char} {s t : String} (hs : c ∉ s.toList) (ht : c ∉ t.toList) :
    c ∉ (s ++ t).toList := by
  rw [String.toList_append, List.mem_append, not_or]
  exact ⟨hs, ht⟩

/-- A joined text holds nothing but characters of the separator and of what is joined. -/
theorem not_mem_toList_intercalate {c : Char} {s : String} {ts : List String} (hs : c ∉ s.toList)
    (hts : ∀ t ∈ ts, c ∉ t.toList) : c ∉ (s.intercalate ts).toList := by
  induction ts with
  | nil => exact List.not_mem_nil
  | cons t ts ih =>
    have ht : c ∉ t.toList := hts t List.mem_cons_self
    have hrest : c ∉ (s.intercalate ts).toList := ih fun u hu ↦ hts u (List.mem_cons_of_mem t hu)
    cases ts with
    | nil => simpa using ht
    | cons u us =>
      rw [String.intercalate_cons_cons]
      exact not_mem_toList_append (not_mem_toList_append ht hs) hrest

theorem feed_not_mem_intercalate_toText {s : String} (hs : '\n' ∉ s.toList) (ns : List Number) :
    '\n' ∉ (s.intercalate (ns.map Number.toText)).toList := by
  refine not_mem_toList_intercalate hs fun t ht ↦ ?_
  obtain ⟨n, -, rfl⟩ := List.mem_map.1 ht
  exact n.feed_not_mem_toText

theorem Evaluation.feed_not_mem_equation (e : Evaluation) : '\n' ∉ e.equation.toList := by
  have hseparator : '\n' ∉ (" " ++ e.operation.symbolText ++ " ").toList := by
    cases e.operation <;> decide
  have hexpression : '\n' ∉ e.expression.toList := by
    rw [expression]
    split
    · decide
    · exact feed_not_mem_intercalate_toText hseparator e.operands
  exact not_mem_toList_append (not_mem_toList_append hexpression (by decide))
    e.value.feed_not_mem_toText

theorem Fault.feed_not_mem_message (f : Fault) : '\n' ∉ f.message.toList := by
  cases f with
  | negatives values =>
    exact not_mem_toList_append (by decide) (feed_not_mem_intercalate_toText (by decide) values)
  | divisionByZero dividend =>
    exact not_mem_toList_append
      (not_mem_toList_append (by decide) dividend.feed_not_mem_toText) (by decide)
  | overflow op =>
    have hname : '\n' ∉ op.name.toList := by
      cases op <;> decide
    exact not_mem_toList_append (not_mem_toList_append (by decide) hname) (by decide)

/-- No outcome is put into more than one line. -/
theorem feed_not_mem_report (outcome : Except Fault Evaluation) :
    '\n' ∉ (report outcome).toList := by
  rcases outcome with f | e
  · have hmessage := f.feed_not_mem_message
    cases f with
    | negatives values => exact not_mem_toList_append (by decide) hmessage
    | divisionByZero dividend => exact not_mem_toList_append (by decide) hmessage
    | overflow op => exact not_mem_toList_append (by decide) hmessage
  · exact e.feed_not_mem_equation

/-! ### Answers to chunks -/

/-- What a chunk of input is answered with: the chunk is text, the line in it is calculated, and the
outcome is reported. -/
inductive Configuration.Replies (c : Configuration) (chunk : List UInt8) : String → Prop
  | intro {text line : String} (decoded : decode? chunk = some text) (isLine : IsLine text line) :
      c.Replies chunk (report (c.calculateLine line))

/-- A chunk is given the answer that it should have, and no other. -/
theorem Configuration.answer?_eq_some_iff {c : Configuration} {chunk : List UInt8}
    {answer : String} : c.answer? chunk = some answer ↔ c.Replies chunk answer := by
  rw [answer?, Option.map_eq_some_iff]
  constructor
  · rintro ⟨text, htext, rfl⟩
    rw [text_reply]
    exact .intro htext (isLine_dropLineEnds text)
  · rintro ⟨htext, hline⟩
    exact ⟨_, htext, by rw [dropLineEnds_eq_iff.2 hline, text_reply]⟩

/-- The chunks without an answer are those that are not text. -/
theorem Configuration.answer?_eq_none_iff {c : Configuration} {chunk : List UInt8} :
    c.answer? chunk = none ↔ decode? chunk = none := by
  rw [answer?, Option.map_eq_none_iff]

theorem Configuration.Replies.feed_not_mem {c : Configuration} {chunk : List UInt8}
    {answer : String} (h : c.Replies chunk answer) : '\n' ∉ answer.toList := by
  cases h with
  | intro _ _ => exact feed_not_mem_report _

/-- Chunks that are text are all answered. -/
theorem Configuration.exists_replies (c : Configuration) {cs : List (List UInt8)}
    (h : ∀ chunk ∈ cs, decode? chunk ≠ none) : ∃ answers, List.Forall₂ c.Replies cs answers := by
  induction cs with
  | nil => exact ⟨[], .nil⟩
  | cons chunk cs ih =>
    obtain ⟨answers, hanswers⟩ := ih fun d hd ↦ h d (List.mem_cons_of_mem chunk hd)
    obtain ⟨text, htext⟩ := Option.ne_none_iff_exists'.1 (h chunk List.mem_cons_self)
    exact ⟨_, .cons (.intro htext (isLine_dropLineEnds text)) hanswers⟩

/-! ### The conversation -/

namespace Console

/-- What stands between the opening and the last prompt: every answer on a line of its own, behind
its prompt. -/
def exchange (answers : List String) : String :=
  String.join (answers.map fun answer ↦ prompt ++ answer ++ "\n")

/-- The turn for a chunk that is text is its answer, on a line. -/
theorem turn_of_replies {c : Configuration} {chunk : List UInt8} {answer : String}
    (h : c.Replies chunk answer) : turn c (some chunk) = .ok (answer ++ "\n") := by
  rw [turn, Configuration.answer?_eq_some_iff.2 h]

/-- The turn for a chunk that is not text is the last one. -/
theorem turn_of_not_text {c : Configuration} {chunk : List UInt8} (h : decode? chunk = none) :
    turn c (some chunk) = .error .notText := by
  rw [turn, Configuration.answer?_eq_none_iff.2 h]

/-- As long as chunks are text the conversation goes on. -/
theorem converse_append {c : Configuration} {before : List (List UInt8)} {answers : List String}
    (h : List.Forall₂ c.Replies before answers) (rest : List (List UInt8)) :
    converse c (before ++ rest) =
      ⟨exchange answers ++ (converse c rest).output, (converse c rest).ending⟩ := by
  induction h with
  | nil => simp [exchange]
  | @cons chunk answer before answers hreply _ ih =>
    rw [List.cons_append, converse, turn_of_replies hreply, ih]
    simp [exchange, String.append_assoc]

/-- A conversation is complete exactly if all of its chunks are text. -/
theorem ending_converse_eq_complete_iff {c : Configuration} {cs : List (List UInt8)} :
    (converse c cs).ending = .complete ↔ ∀ chunk ∈ cs, decode? chunk ≠ none := by
  induction cs with
  | nil => exact iff_of_true rfl (by simp)
  | cons chunk cs ih =>
    rcases hdecoded : decode? chunk with - | text
    · rw [converse, turn_of_not_text hdecoded]
      exact iff_of_false nofun fun h ↦ h chunk List.mem_cons_self hdecoded
    · rw [converse, turn_of_replies (.intro hdecoded (isLine_dropLineEnds text)),
        List.forall_mem_cons, ← ih, hdecoded]
      simp

/-- There are as many lines in an exchange as there are chunks. -/
theorem count_feed_exchange {c : Configuration} {cs : List (List UInt8)} {answers : List String}
    (h : List.Forall₂ c.Replies cs answers) :
    (exchange answers).toList.count '\n' = cs.length := by
  induction h with
  | nil => rfl
  | @cons chunk answer cs answers hreply _ ih =>
    have hanswer := List.count_eq_zero.2 hreply.feed_not_mem
    rw [exchange] at ih ⊢
    rw [List.map_cons, String.join_cons, String.toList_append, List.count_append, ih]
    simp [prompt, hanswer]
    omega

/-- **A conversation answers one line at a time.** There is one row of chunks for an input. If all
of them are text, each is answered in turn on a line of its own, and the conversation is complete;
so it has three lines more than there are chunks. Otherwise it ends behind the prompt for the first
one that is not, with everything before it answered. No outcome takes more than one line. -/
theorem transcript_of_chunks (c : Configuration) (input : List UInt8) :
    (∀ cs, Chunked input cs ↔ chunks input = cs) ∧
      ((∀ chunk ∈ chunks input, decode? chunk ≠ none) →
        ∃ answers, List.Forall₂ c.Replies (chunks input) answers ∧
          transcript c input = ⟨opening ++ exchange answers ++ prompt ++ "\n", .complete⟩ ∧
          (transcript c input).output.toList.count '\n' = (chunks input).length + 3) ∧
      (∀ before bad rest, chunks input = before ++ bad :: rest →
        (∀ chunk ∈ before, decode? chunk ≠ none) → decode? bad = none →
          ∃ answers, List.Forall₂ c.Replies before answers ∧
            transcript c input = ⟨opening ++ exchange answers ++ prompt, .notText⟩) ∧
      (∀ outcome, '\n' ∉ (report outcome).toList) := by
  refine ⟨fun _ ↦ chunked_iff, fun h ↦ ?_, fun before bad rest hcs h hbad ↦ ?_,
    feed_not_mem_report⟩
  · obtain ⟨answers, hanswers⟩ := c.exists_replies h
    have hconverse := converse_append hanswers []
    rw [List.append_nil] at hconverse
    have htranscript :
        transcript c input = ⟨opening ++ exchange answers ++ prompt ++ "\n", .complete⟩ := by
      rw [transcript, hconverse]
      simp [converse, close, Ending.text, String.append_assoc]
    have hopening : opening.toList.count '\n' = 2 := by decide
    refine ⟨answers, hanswers, htranscript, ?_⟩
    rw [htranscript]
    simp [List.count_append, hopening, count_feed_exchange hanswers, prompt]
    omega
  · obtain ⟨answers, hanswers⟩ := c.exists_replies h
    refine ⟨answers, hanswers, ?_⟩
    rw [transcript, hcs, converse_append hanswers, converse, turn_of_not_text hbad]
    simp [close, Ending.text, String.append_assoc]

/-- Four chunks: a division by zero with two returns behind it, a number that would be divided by
zero if its line end were not dropped, a chunk that is not text, and one that is not read any
more. -/
theorem transcript_of_chunks_notText :
    chunks ("10,0\r\r\n5\r\n".toUTF8.toList ++ [0x31, 0xFF, 0x0A, 0x32]) =
        ["10,0\r\r\n".toUTF8.toList, "5\r\n".toUTF8.toList, [0x31, 0xFF, 0x0A], [0x32]] ∧
      transcript { operation := .quotient }
          ("10,0\r\r\n5\r\n".toUTF8.toList ++ [0x31, 0xFF, 0x0A, 0x32]) =
        ⟨opening ++ "> Unexpected error: Attempted to divide by zero (dividend 10)\n> 5 = 5\n> ",
          .notText⟩ ∧
      ({ operation := .quotient } : Configuration).calculateLine "5\r\n" =
        .error (.divisionByZero (Number.ofToken "5")) := by
  have hchunks : chunks ("10,0\r\r\n5\r\n".toUTF8.toList ++ [0x31, 0xFF, 0x0A, 0x32]) =
      ["10,0\r\r\n".toUTF8.toList, "5\r\n".toUTF8.toList] ++ [0x31, 0xFF, 0x0A] :: [[0x32]] := by
    decide +kernel
  have hquotient : ({ operation := .quotient } : Configuration).answer? "10,0\r\r\n".toUTF8.toList =
      some "Unexpected error: Attempted to divide by zero (dividend 10)" := by decide +kernel
  have hnumber : ({ operation := .quotient } : Configuration).answer? "5\r\n".toUTF8.toList =
      some "5 = 5" := by decide +kernel
  obtain ⟨answers, hanswers, htranscript⟩ :=
    (transcript_of_chunks { operation := .quotient } _).2.2.1 _ _ _ hchunks
      (by decide +kernel) (by decide +kernel)
  refine ⟨hchunks, ?_, by decide +kernel⟩
  rw [htranscript]
  cases hanswers with
  | cons hfirst hrest =>
    cases hrest with
    | cons hsecond hnil =>
      cases hnil
      rw [Configuration.answer?_eq_some_iff.2 hfirst, Option.some.injEq] at hquotient
      rw [Configuration.answer?_eq_some_iff.2 hsecond, Option.some.injEq] at hnumber
      subst hquotient hnumber
      rfl

end Console

end StringCalculator
