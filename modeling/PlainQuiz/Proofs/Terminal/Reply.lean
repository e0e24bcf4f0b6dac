import PlainQuiz.Proofs.Grade
import PlainQuiz.Proofs.Text.Lines
import PlainQuiz.Terminal.Reply

set_option autoImplicit false

namespace PlainQuiz

theorem Reply.error_of_truth {labels : Labels} {reply : Text} {error : ReplyError}
    (failed : truth labels reply = .error error) : error = ⟨reply⟩ := by
  unfold truth at failed
  dsimp only at failed
  split_ifs at failed
  exact (Except.error.inj failed).symm

theorem Reply.fillings_join_lines {lines : List Text} (filled : lines ≠ [])
    (whole : ∀ line ∈ lines, blankSeparator ∉ line) :
    fillings (Text.trim (Text.join [blankSeparator] lines)) = lines.map Text.trim :=
  (Text.trimmedPieces_trim rfl _).trans (Text.trimmedPieces_join filled whole)

theorem Reply.fillings_join {words : List Text} (filled : words ≠ [])
    (clean : ∀ word ∈ words, Text.trim word = word ∧ blankSeparator ∉ word) :
    fillings (Text.trim (Text.join [blankSeparator] words)) = words := by
  rw [fillings_join_lines filled fun word member => (clean word member).2]
  exact (List.map_congr_left fun word member => (clean word member).1).trans (List.map_id words)

def Labels.solution (labels : Labels) (question : Question) : Text :=
  if question.kind = .trueFalse then labels.forTruth question.answerSummary
  else question.answerSummary

theorem Labels.verdict_cases (labels : Labels) (question : Question) (response : Response) :
    labels.verdict question (question.grade response) = (some .correct, labels.correct) ∨
      labels.verdict question (question.grade response) =
        (some .incorrect, labels.incorrect ++ " " ++ labels.solution question) ∨
      labels.verdict question (question.grade response) = (none, labels.incomplete) ∨
      (labels.verdict question (question.grade response)).1 = some .misconfigured := by
  unfold Question.grade
  cases question.isCorrect response with
  | ok correct =>
    cases correct with
    | true => exact .inl rfl
    | false => exact .inr (.inl rfl)
  | error error =>
    by_cases incomplete : error.isIncomplete = true
    · exact .inr (.inr (.inl (if_pos incomplete)))
    · exact .inr (.inr (.inr (congrArg Prod.fst (if_neg incomplete))))

namespace Question

def gradeLine (question : Question) (labels : Labels) (line : Text) :
    Except ReplyError (Except GradeError Verdict) :=
  (question.response labels line).map question.grade

variable {question : Question} {labels : Labels} {response : Response}

theorem gradeLine_of_response {line : Text}
    (read : question.response labels line = .ok response) :
    question.gradeLine labels line = .ok (question.grade response) :=
  congrArg (Except.map question.grade) read

theorem response_suits {line : Text}
    (read : question.response labels line = .ok response) : response.Suits question.kind := by
  obtain ⟨kind, prompt, options, answers, rawAnswer⟩ := question
  unfold Question.response at read
  cases kind with
  | multipleChoice =>
    obtain rfl := Except.ok.inj read
    exact .selection _
  | freeText =>
    obtain rfl := Except.ok.inj read
    exact .text _
  | trueFalse =>
    cases chosen : Reply.truth labels (Text.trim line) with
    | error => simp [chosen, Except.map] at read
    | ok value =>
      obtain rfl : .truth value = response := by simpa [chosen, Except.map] using read
      exact .truth value
  | fillBlank =>
    obtain rfl := Except.ok.inj read
    exact .blanks _
  | sort =>
    obtain rfl := Except.ok.inj read
    exact .order _

theorem error_of_response {line : Text} {error : ReplyError}
    (failed : question.response labels line = .error error) :
    question.kind = .trueFalse ∧ error = ⟨Text.trim line⟩ := by
  unfold Question.response at failed
  dsimp only at failed
  cases kind : question.kind with
  | multipleChoice | sort | freeText | fillBlank => simp [kind] at failed
  | trueFalse =>
    cases chosen : Reply.truth labels (Text.trim line) with
    | ok value => simp [kind, chosen, Except.map] at failed
    | error unknown =>
      obtain rfl : unknown = error := by simpa [kind, chosen, Except.map] using failed
      exact ⟨rfl, Reply.error_of_truth chosen⟩

theorem verdict_eq_misconfigured_iff :
    (labels.verdict question (question.grade response)).1 = some .misconfigured ↔
      ∃ error, question.isCorrect response = .error error ∧ error.isIncomplete = false := by
  simp only [← grade_eq_error_iff]
  cases question.grade response with
  | ok verdict =>
    obtain ⟨correct, expected⟩ := verdict
    cases correct <;> simp [Labels.verdict]
  | error error => cases incomplete : error.isIncomplete <;> simp [Labels.verdict, incomplete]

theorem isShort_of_misconfigured (suits : response.Suits question.kind)
    (outcome : (labels.verdict question (question.grade response)).1 = some .misconfigured) :
    question.IsShort := by
  obtain ⟨error, failed, final⟩ := verdict_eq_misconfigured_iff.mp outcome
  rcases error_of_suits suits failed with incomplete | ⟨short, _⟩
  · simp [final] at incomplete
  · exact short

end Question

end PlainQuiz
