import PlainQuiz.Proofs.Terminal.ChipOrder
import PlainQuiz.Proofs.Terminal.Filling

set_option autoImplicit false

namespace PlainQuiz

theorem Chips.Unlabelled.reads_of_find {chips : List Text} {input : Input} {line : Text}
    (unlabelled : Unlabelled chips input) (member : some line ∈ input) {taken : List Nat}
    {index : Nat} (found : find chips taken (Text.trim line) = some index) :
    reads chips (Text.lower (Text.trim line)) index = true := by
  rcases find_cases found with read | ⟨named, unread⟩
  · exact read
  · have among := unlabelled line member index (find_lt found) named
    obtain ⟨place, read⟩ := exists_reads_iff.mpr among
    simp [unread place] at read

namespace Filling

variable {chips : List Text} (solid : ∀ chip ∈ chips, Text.trim chip = chip)

include solid

theorem Adds.alike {fillings : List Filling} {line : Text} {filling : Filling} {input : Input}
    (adds : Adds chips fillings line filling) (unlabelled : Chips.Unlabelled chips input)
    (member : some line ∈ input) : Question.Alike (filling.text chips) (Text.trim line) := by
  cases adds with
  | chip found _ =>
    obtain ⟨inside, same⟩ := Chips.text_of_reads (unlabelled.reads_of_find member found)
    exact .of_lower (solid _ inside) (Text.trim_trim line) same
  | typed => exact ⟨rfl, Iff.rfl⟩

theorem Accepted.alike {fillings filled : List Filling} {lines words : List Text}
    (accepted : Accepted chips fillings lines filled)
    (unlabelled : Chips.Unlabelled chips (lines.map some))
    (sofar : List.Forall₂ Question.Alike (fillings.map (text chips)) words) :
    List.Forall₂ Question.Alike (filled.map (text chips)) (words ++ lines.map Text.trim) := by
  induction accepted generalizing words with
  | nil => simpa using sofar
  | @cons fillings filled line lines filling adds _ ih =>
    have here := adds.alike solid unlabelled (by simp)
    have next : List.Forall₂ Question.Alike ((fillings ++ [filling]).map (text chips))
        (words ++ [Text.trim line]) := by
      rw [List.map_append]
      exact List.rel_append sofar (.cons here .nil)
    simpa using ih (unlabelled.suffix (List.suffix_cons _ _)) next

end Filling

namespace Question

open Filling Terminal

variable {source : Text} {question : Question} {chips lines : List Text}

theorem accepted_of_attempt (fill : question.kind = .fillBlank)
    (count : lines.length = question.blankCount) {labels : Labels} {rest : Input}
    {said : Transcript} {response : Response}
    (done : question.attempt labels chips (lines.map some ++ rest) = ⟨said, .done response, rest⟩) :
    said = blankRequests 1 question.blankCount ∧
      ∃ filled, response = blanksOf chips filled ∧ Accepted chips [] lines filled := by
  simp only [attempt, fill] at done
  obtain ⟨filled, ended, same⟩ := Turn.done_of_map (congrArg Turn.ending done)
  have left : (question.askBlanks chips [] (lines.map some ++ rest)).rest = rest :=
    congrArg Turn.rest done
  obtain ⟨consumed, kept, whole, among, counted, accepted⟩ :=
    exists_accepted_of_done (Nat.zero_le _) ended
  rw [left] at whole
  obtain rfl := List.append_cancel_right whole
  have all : kept.map some = lines.map some :=
    among.eq_of_length (by simpa [count] using counted)
  obtain rfl := List.map_injective_iff.mpr (fun _ _ => Option.some.inj) all
  have asked : (question.askBlanks chips [] (kept.map some ++ rest)).said = said :=
    congrArg Turn.said done
  rw [askBlanks_of_accepted accepted counted rest] at asked
  exact ⟨by rw [← asked, ← count]; rfl, filled, same.symm, accepted⟩

theorem grade_blanks_congr (fill : question.kind = .fillBlank) {fillings others : List Text}
    (alike : List.Forall₂ Alike fillings others) :
    question.grade (.blanks fillings) = question.grade (.blanks others) := by
  simp only [grade, isCorrect, fill, question.gradeBlanks_congr alike]

/-- Lines that fill the blanks of a session without a refusal, and name no chip by its label, are
graded like the one line that they make when they are joined by bars. -/
theorem session_graded_as_line (parsed : Question.ofBlock source = .ok question)
    (fill : question.kind = .fillBlank) (perm : chips.Perm question.answers)
    (count : lines.length = question.blankCount)
    (whole : ∀ line ∈ lines, Reply.blankSeparator ∉ line)
    (unlabelled : Chips.Unlabelled chips (lines.map some)) (labels : Labels) {rest : Input}
    {said : Transcript} {response : Response}
    (done : question.attempt labels chips (lines.map some ++ rest) = ⟨said, .done response, rest⟩) :
    said = blankRequests 1 question.blankCount ∧
      question.gradeLine labels (Text.join [Reply.blankSeparator] lines) =
        .ok (question.grade response) := by
  have solid : ∀ chip ∈ chips, Text.trim chip = chip :=
    fun chip member => trim_of_mem_answers parsed (perm.mem_iff.mp member)
  obtain ⟨asked, filled, rfl, accepted⟩ := accepted_of_attempt fill count done
  have filledLines : lines ≠ [] :=
    List.ne_nil_of_length_pos (count ▸ blankCount_pos fill)
  have read : question.response labels (Text.join [Reply.blankSeparator] lines) =
      .ok (.blanks (lines.map Text.trim)) := by
    simp only [Question.response, fill, Reply.fillings_join_lines filledLines whole]
  have alike : List.Forall₂ Alike (filled.map (Filling.text chips)) (lines.map Text.trim) :=
    accepted.alike solid unlabelled .nil
  rw [gradeLine_of_response read, ← grade_blanks_congr fill alike]
  exact ⟨asked, rfl⟩

-- An answer reads like the label of another one's chip, and the last line is no answer.
def threeBlanks : Text := "-- Type fb\n-- Question [blank] [blank] [blank]\n-- Answer b, ΟΔΟΣ, go"

def threeBlanksQuestion : Question :=
  ⟨.fillBlank, "[blank] [blank] [blank]", [], [("b" : Text), "ΟΔΟΣ", "go"], "b, ΟΔΟΣ, go"⟩

def threeLines : List Text := [" B", "οδος\t", "zig"]

theorem session_graded_as_line_threeBlanks :
    Question.ofBlock threeBlanks = .ok threeBlanksQuestion ∧
      Chips.Unlabelled [("go" : Text), "ΟΔΟΣ", "b"] (threeLines.map some) ∧
      ∃ said response, threeBlanksQuestion.attempt .standard [("go" : Text), "ΟΔΟΣ", "b"]
          (threeLines.map some ++ [none]) = ⟨said, .done response, [none]⟩ ∧
        threeBlanksQuestion.gradeLine .standard " B|οδος\t|zig" =
          .ok (threeBlanksQuestion.grade response) := by
  have parsed : Question.ofBlock threeBlanks = .ok threeBlanksQuestion := by decide +kernel
  have unlabelled : Chips.Unlabelled [("go" : Text), "ΟΔΟΣ", "b"] (threeLines.map some) := by
    decide +kernel
  have done : threeBlanksQuestion.attempt .standard [("go" : Text), "ΟΔΟΣ", "b"]
      (threeLines.map some ++ [none]) =
        ⟨blankRequests 1 3, .done (.blanks [("b" : Text), "ΟΔΟΣ", "zig"]), [none]⟩ := by
    decide +kernel
  obtain ⟨-, same⟩ := session_graded_as_line parsed rfl (by decide) rfl (by decide) unlabelled
    .standard done
  exact ⟨parsed, unlabelled, _, _, done, same⟩

end Question

end PlainQuiz
