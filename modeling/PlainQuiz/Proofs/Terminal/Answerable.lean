import PlainQuiz.Proofs.Authored
import PlainQuiz.Proofs.Block.Shape
import PlainQuiz.Proofs.Review

set_option autoImplicit false

namespace PlainQuiz

theorem Review.length_answers_of_blanks {question : Question}
    (quiet : Review.blanks question = []) : question.answers.length = question.blankCount := by
  have counted := (List.append_eq_nil_iff.mp quiet).2
  split_ifs at counted
  omega

namespace Question

variable {question : Question}

theorem answers_of_warnings (fill : question.kind = .fillBlank) (quiet : question.warnings = []) :
    question.answers.length = question.blankCount ∧ [] ∉ question.answers := by
  obtain ⟨-, filled, kinded⟩ := warnings_eq_nil_iff.mp quiet
  simp only [Review.forKind, fill, List.append_eq_nil_iff] at kinded
  exact ⟨Review.length_answers_of_blanks kinded.1, filled⟩

theorem accepts_response_iff (fill : question.kind = .fillBlank) (labels : Labels) (line : Text) :
    (∃ response, question.response labels line = .ok response ∧ question.Accepts response) ↔
      question.gradeBlanks (Reply.fillings (Text.trim line)) = .ok true := by
  simp [response, fill, accepts_iff, isCorrect]

theorem separator_not_mem_of_accepts {reply answer : Text}
    (accepted : question.gradeBlanks (Reply.fillings reply) = .ok true)
    (counted : question.answers.length = question.blankCount)
    (member : answer ∈ question.answers) : Reply.blankSeparator ∉ answer := by
  intro inside
  obtain ⟨index, within, rfl⟩ := List.mem_iff_getElem.mp member
  have fit := ((gradeBlanks_eq_ok_true_iff.mp accepted).2 index (counted ▸ within)).2
  obtain ⟨filling, answer, here, wanted, same⟩ := fits_eq_true_iff.mp fit
  obtain rfl : question.answers[index] = answer := by simpa [within] using wanted
  -- Lowering keeps the bar, so the filling that fits would hold one too.
  have lowered : Reply.blankSeparator ∈ Text.lower filling := by
    rw [same, Text.mem_lower_iff rfl rfl]
    exact inside
  rw [Text.mem_lower_iff rfl rfl] at lowered
  exact Text.separator_not_mem_of_mem_trimmedPieces (List.mem_of_getElem? here) lowered

theorem gradeBlanks_of_filled (solid : ∀ answer ∈ question.answers, Text.trim answer = answer)
    (counted : question.answers.length = question.blankCount) (filled : [] ∉ question.answers) :
    question.gradeBlanks question.answers = .ok true := by
  have whole : question.authoredBlanks = question.answers := List.take_of_length_le counted.le
  have complete : question.AnswersBlanks :=
    ⟨counted.ge, fun answer member empty => filled (empty ▸ List.mem_of_mem_take member)⟩
  have graded := gradeBlanks_authoredBlanks solid complete
  rwa [whole] at graded

def replyLine (question : Question) : Text := Text.join [Reply.blankSeparator] question.answers

theorem newline_not_mem_replyLine (whole : ∀ answer ∈ question.answers, '\n' ∉ answer) :
    '\n' ∉ question.replyLine := by
  intro member
  rcases Text.mem_of_mem_join member with bar | ⟨answer, among, inside⟩
  · exact absurd bar (by decide)
  · exact whole answer among inside

/-- A parsed fill-in-the-blank question without warnings can be answered in one line exactly when
none of its answers holds a bar. -/
theorem exists_accepted_line_iff {source : Text} (parsed : Question.ofBlock source = .ok question)
    (fill : question.kind = .fillBlank) (quiet : question.warnings = []) (labels : Labels) :
    (∃ line response, '\n' ∉ line ∧ question.response labels line = .ok response ∧
        question.Accepts response) ↔
      ∀ answer ∈ question.answers, Reply.blankSeparator ∉ answer := by
  obtain ⟨counted, filled⟩ := answers_of_warnings fill quiet
  constructor
  · rintro ⟨line, response, _, read, accepted⟩ answer
    have graded := (accepts_response_iff fill labels line).mp ⟨response, read, accepted⟩
    exact separator_not_mem_of_accepts graded counted
  · intro whole
    have phrases : ∀ answer ∈ question.answers, answer.IsPhrase :=
      fun answer => isPhrase_of_mem_answers parsed
    have read := Reply.fillings_join (answers_ne_nil parsed)
      fun answer member => ⟨(phrases answer member).trimmed, whole answer member⟩
    have graded := gradeBlanks_of_filled (fun answer member => (phrases answer member).trimmed)
      counted filled
    obtain ⟨response, given, accepted⟩ :=
      (accepts_response_iff fill labels (replyLine question)).mpr (read ▸ graded)
    exact ⟨replyLine question, response,
      newline_not_mem_replyLine fun answer member => (phrases answer member).whole, given, accepted⟩

-- Sigmas at the end of a word, and answers of more than one word.
def twoBlanks : Text := "-- Type fb\n-- Question [blank] or [blank]?\n-- Answer  ΟΔΟΣ , to be"

def twoBlanksQuestion : Question :=
  ⟨.fillBlank, "[blank] or [blank]?", [], [("ΟΔΟΣ" : Text), "to be"], "ΟΔΟΣ , to be"⟩

theorem exists_accepted_line_twoBlanks :
    Question.ofBlock twoBlanks = .ok twoBlanksQuestion ∧ twoBlanksQuestion.kind = .fillBlank ∧
      twoBlanksQuestion.warnings = [] ∧
      ∃ line response, '\n' ∉ line ∧ twoBlanksQuestion.response .standard line = .ok response ∧
        twoBlanksQuestion.Accepts response := by
  have parsed : Question.ofBlock twoBlanks = .ok twoBlanksQuestion := by decide +kernel
  have quiet : twoBlanksQuestion.warnings = [] := by decide +kernel
  refine ⟨parsed, rfl, quiet, ?_⟩
  rw [exists_accepted_line_iff parsed rfl quiet]
  decide

def barredAnswer : Text := "-- Type fb\n-- Question [blank]\n-- Answer a|b"

def barredAnswerQuestion : Question := ⟨.fillBlank, "[blank]", [], [("a|b" : Text)], "a|b"⟩

theorem barredAnswer_out_of_reach :
    ¬ ∀ (source : Text) (question : Question), Question.ofBlock source = .ok question →
      question.kind = .fillBlank → question.warnings = [] → ∀ labels : Labels,
        ∃ line response, '\n' ∉ line ∧ question.response labels line = .ok response ∧
          question.Accepts response := by
  intro reachable
  obtain ⟨line, response, _, read, accepted⟩ :=
    reachable barredAnswer barredAnswerQuestion (by decide +kernel) rfl (by decide) .standard
  have graded := (accepts_response_iff rfl .standard line).mp ⟨response, read, accepted⟩
  exact separator_not_mem_of_accepts graded rfl List.mem_cons_self (by decide)

end Question

end PlainQuiz
