import PlainQuiz.Proofs.Block.Finish
import PlainQuiz.Proofs.Grade
import PlainQuiz.Terminal.Reply

set_option autoImplicit false

namespace PlainQuiz

namespace Question

variable {source : Text} {question : Question}

def AnswersBlanks (question : Question) : Prop :=
  question.blankCount ≤ question.answers.length ∧
    ∀ answer ∈ question.answers.take question.blankCount, answer ≠ []

instance (question : Question) : Decidable question.AnswersBlanks :=
  inferInstanceAs (Decidable (_ ∧ _))

structure FirstUnanswered (question : Question) (index : Nat) : Prop where
  within : index < question.blankCount
  unanswered : question.answers[index]? = none ∨ question.answers[index]? = some []
  before : ∀ earlier < index, ∃ answer, question.answers[earlier]? = some answer ∧ answer ≠ []

def authoredBlanks (question : Question) : List Text := question.answers.take question.blankCount

theorem fits_authoredBlanks {index : Nat} (within : index < question.blankCount)
    (enough : question.blankCount ≤ question.answers.length) :
    question.fits question.authoredBlanks index = true := by
  have here : question.answers[index]? = some question.answers[index] :=
    List.getElem?_eq_getElem (by omega)
  refine fits_eq_true_iff.mpr ⟨_, _, ?_, here, rfl⟩
  rw [authoredBlanks, List.getElem?_take_of_lt within, here]

section Blanks

variable (solid : ∀ answer ∈ question.answers, Text.trim answer = answer)

include solid

theorem isFilled_authoredBlanks {index : Nat} (within : index < question.blankCount) :
    isFilled question.authoredBlanks index = true ↔
      ∃ answer, question.answers[index]? = some answer ∧ answer ≠ [] := by
  rw [isFilled_eq_true_iff, authoredBlanks, List.getElem?_take_of_lt within]
  constructor
  · rintro ⟨answer, here, filled⟩
    exact ⟨answer, here, by rwa [solid answer (List.mem_of_getElem? here)] at filled⟩
  · rintro ⟨answer, here, filled⟩
    exact ⟨answer, here, by rwa [solid answer (List.mem_of_getElem? here)]⟩

theorem answersBlanks_of_filled (enough : question.blankCount ≤ question.answers.length)
    (filled : ∀ index < question.blankCount, isFilled question.authoredBlanks index = true) :
    question.AnswersBlanks := by
  refine ⟨enough, fun answer member => ?_⟩
  obtain ⟨index, within, rfl⟩ := List.mem_take_iff_getElem.mp member
  obtain ⟨answer, here, solidHere⟩ :=
    (isFilled_authoredBlanks solid (by omega)).mp (filled index (by omega))
  rw [List.getElem?_eq_getElem (by omega)] at here
  exact Option.some.inj here ▸ solidHere

theorem gradeBlanks_authoredBlanks (complete : question.AnswersBlanks) :
    question.gradeBlanks question.authoredBlanks = .ok true := by
  obtain ⟨enough, filled⟩ := complete
  have graded := gradesBlanks question question.authoredBlanks
  generalize question.gradeBlanks question.authoredBlanks = result at graded
  cases graded with
  | gap index within empty _ =>
    have here : question.answers[index]? = some question.answers[index] :=
      List.getElem?_eq_getElem (by omega)
    have member : question.answers[index] ∈ question.answers.take question.blankCount :=
      List.mem_take_iff_getElem.mpr ⟨index, by omega, rfl⟩
    have solidHere := (isFilled_authoredBlanks solid within).mpr ⟨_, here, filled _ member⟩
    rw [solidHere] at empty
    contradiction
  | short _ few => omega
  | compared =>
    have fit : (List.range question.blankCount).all (question.fits question.authoredBlanks) =
        true := by
      rw [List.all_eq_true]
      exact fun index member => fits_authoredBlanks (List.mem_range.mp member) enough
    rw [fit]

theorem gradeBlanks_of_unanswered (incomplete : ¬ question.AnswersBlanks) :
    ∃ index, question.FirstUnanswered index ∧
      question.gradeBlanks question.authoredBlanks = .error (.emptyBlank (index + 1)) := by
  have graded := gradesBlanks question question.authoredBlanks
  generalize question.gradeBlanks question.authoredBlanks = result at graded
  cases graded with
  | gap index within empty before =>
    refine ⟨index, ⟨within, ?_, ?_⟩, rfl⟩
    · have unfilled : ¬ ∃ answer, question.answers[index]? = some answer ∧ answer ≠ [] := by
        rw [← isFilled_authoredBlanks solid within, empty]
        simp
      cases here : question.answers[index]? with
      | none => exact .inl rfl
      | some answer => exact .inr (congrArg some (by simpa [here] using unfilled))
    · intro earlier above
      exact (isFilled_authoredBlanks solid (by omega)).mp (before earlier above)
  -- Only the answers fill blanks, so too few of them leave a blank empty, which is reported first.
  | short filled few =>
    obtain ⟨answer, here, _⟩ := (isFilled_authoredBlanks solid few).mp (filled _ few)
    simp at here
  | compared filled enough => exact absurd (answersBlanks_of_filled solid enough filled) incomplete

end Blanks

theorem accepts_selection (choice : question.kind = .multipleChoice) :
    question.Accepts (.selection question.answers) := by
  rw [accepts_iff]
  simp [isCorrect, choice, gradeSelection_eq_true_iff]

theorem accepts_text (free : question.kind = .freeText) {answer : Text}
    (solid : Text.trim answer = answer) (member : answer ∈ question.answers) :
    question.Accepts (.text answer) := by
  rw [accepts_iff]
  have found : question.gradeText answer = true := by
    rw [gradeText, solid, List.any_eq_true]
    exact ⟨answer, member, beq_self_eq_true _⟩
  simp [isCorrect, free, found]

theorem accepts_order (sort : question.kind = .sort) :
    question.Accepts (.order question.answers) := by
  rw [accepts_iff]
  simp [isCorrect, sort, gradeOrder_eq_true_iff]

/-- The answers of a parsed question are accepted, whatever the order of its directives. Answers
that do not fill every blank are reported as a response with an empty blank, never as a short
list. -/
theorem grade_authored (parsed : Question.ofBlock source = .ok question) :
    (question.kind = .multipleChoice → question.Accepts (.selection question.answers)) ∧
      (question.kind = .freeText →
        ∀ answer ∈ question.answers, question.Accepts (.text answer)) ∧
      (question.kind = .sort → question.Accepts (.order question.answers)) ∧
      (question.kind = .fillBlank →
        (question.AnswersBlanks → question.Accepts (.blanks question.authoredBlanks)) ∧
        (¬ question.AnswersBlanks → ∃ index, question.FirstUnanswered index ∧
          question.grade (.blanks question.authoredBlanks) = .error (.emptyBlank (index + 1))) ∧
        ∀ answers blanks, question.grade (.blanks question.authoredBlanks) ≠
          .error (.tooFewAnswers answers blanks)) := by
  have solid : ∀ answer ∈ question.answers, Text.trim answer = answer :=
    fun answer => trim_of_mem_answers parsed
  refine ⟨accepts_selection,
    fun free answer member => accepts_text free (solid answer member) member,
    accepts_order, fun fill => ?_⟩
  have decided : question.isCorrect (.blanks question.authoredBlanks) =
      question.gradeBlanks question.authoredBlanks := by
    simp only [isCorrect, fill]
  simp only [accepts_iff, Ne, grade_eq_error_iff, decided]
  refine ⟨gradeBlanks_authoredBlanks solid, gradeBlanks_of_unanswered solid, ?_⟩
  intro answers blanks
  by_cases complete : question.AnswersBlanks
  · simp [gradeBlanks_authoredBlanks solid complete]
  · obtain ⟨index, _, graded⟩ := gradeBlanks_of_unanswered solid complete
    simp [graded]

-- The answer was read before the prompt had any gap, so its comma separates nothing.
def earlyAnswer : Text := "-- Type fb\n-- Answer a, b\n-- Question\n[blank] [blank]"

def earlyAnswerQuestion : Question :=
  ⟨.fillBlank, "[blank] [blank]", [], [("a, b" : Text)], "a, b"⟩

theorem grade_earlyAnswer :
    Question.ofBlock earlyAnswer = .ok earlyAnswerQuestion ∧
      ¬ earlyAnswerQuestion.AnswersBlanks ∧
      earlyAnswerQuestion.grade (.blanks [("a, b" : Text)]) = .error (.emptyBlank 2) := by
  have parsed : Question.ofBlock earlyAnswer = .ok earlyAnswerQuestion := by decide
  have incomplete : ¬ earlyAnswerQuestion.AnswersBlanks := by decide
  obtain ⟨_, _, _, blanks⟩ := grade_authored parsed
  obtain ⟨index, first, graded⟩ := (blanks rfl).2.1 incomplete
  have second : index = 1 := by
    have within : index < 2 := first.within
    by_contra other
    obtain rfl : index = 0 := by omega
    exact absurd first.unanswered (by decide)
  subst second
  exact ⟨parsed, incomplete, graded⟩

theorem gradeSelection_nil (answered : question.answers ≠ []) :
    question.gradeSelection [] = false := by
  rw [Bool.eq_false_iff, Ne, gradeSelection_eq_true_iff]
  intro same
  exact answered (List.eq_nil_iff_forall_not_mem.mpr fun id member => by
    simpa using (same id).mpr member)

theorem gradeOrder_nil (answered : question.answers ≠ []) : question.gradeOrder [] = false := by
  rw [Bool.eq_false_iff, Ne, gradeOrder_eq_true_iff]
  exact answered.symm

theorem gradeText_nil : question.gradeText [] = true ↔ [] ∈ question.answers := by
  have empty : Text.lower (Text.trim []) = [] := rfl
  simp [gradeText, empty, Text.lower_eq_nil_iff]

theorem gradeBlanks_blank (fill : question.kind = .fillBlank) :
    question.gradeBlanks [[]] = .error (.emptyBlank 1) := by
  have graded := gradesBlanks question [[]]
  have first := blankCount_pos fill
  generalize question.gradeBlanks [[]] = result at graded
  cases graded with
  | gap index within empty before =>
    have zero : index = 0 := by
      by_contra later
      exact absurd (before 0 (by omega)) (by decide)
    rw [zero]
  | short filled _ | compared filled _ => exact absurd (filled 0 first) (by decide)

/-- A reply of nothing but blanks is accepted by no question but one of free text whose author left
an answer empty. -/
theorem accepts_blank_iff (parsed : Question.ofBlock source = .ok question) (labels : Labels)
    {line : Text} (blank : ∀ c ∈ line, Text.isBlank c = true) :
    (∃ response, question.response labels line = .ok response ∧ question.Accepts response) ↔
      question.kind = .freeText ∧ [] ∈ question.answers := by
  have answered := answers_ne_nil parsed
  have nothing : Text.trim line = [] := Text.trim_eq_nil_iff.mpr blank
  clear parsed
  simp only [response, nothing, accepts_iff]
  cases kind : question.kind with
  | multipleChoice =>
    have ids : Reply.ids [] = [] := rfl
    simp [isCorrect, kind, ids, gradeSelection_nil answered]
  | freeText => simp [isCorrect, kind, gradeText_nil]
  | trueFalse =>
    have unchosen : Reply.truth labels [] = .ok none := rfl
    simp [isCorrect, kind, unchosen, Except.map, gradeTruth]
  | fillBlank =>
    have fillings : Reply.fillings [] = [[]] := rfl
    simp [isCorrect, kind, fillings, gradeBlanks_blank kind]
  | sort =>
    have ids : Reply.ids [] = [] := rfl
    simp [isCorrect, kind, ids, gradeOrder_nil answered]

-- Both pieces around the comma are empty.
def loneComma : Text := "-- Question Q\n-- A\nx\n-- Answer ,"

def loneCommaQuestion : Question := ⟨.multipleChoice, "Q", [⟨"A", "x"⟩], [[], []], ","⟩

theorem rejects_blank_loneComma :
    Question.ofBlock loneComma = .ok loneCommaQuestion ∧ [] ∈ loneCommaQuestion.answers ∧
      ¬ ∃ response, loneCommaQuestion.response .standard " \t" = .ok response ∧
        loneCommaQuestion.Accepts response := by
  have parsed : Question.ofBlock loneComma = .ok loneCommaQuestion := by decide
  have blank : ∀ c ∈ (" \t" : Text), Text.isBlank c = true :=
    List.all_eq_true.mp rfl
  refine ⟨parsed, by decide, ?_⟩
  rw [accepts_blank_iff parsed .standard blank]
  decide

def strayComma : Text := "-- Type text\n-- Question Q\n-- Answer a,"

def strayCommaQuestion : Question := ⟨.freeText, "Q", [], [("a" : Text), []], "a,"⟩

theorem strayComma_accepts_blank :
    ¬ ∀ (source : Text) (question : Question), Question.ofBlock source = .ok question →
      ∀ (labels : Labels) (line : Text), (∀ c ∈ line, Text.isBlank c = true) →
        ∀ response, question.response labels line = .ok response → ¬ question.Accepts response := by
  intro never
  refine never strayComma strayCommaQuestion (by decide) .standard [] (by simp) (.text []) rfl ?_
  exact accepts_iff.mpr rfl

end Question

end PlainQuiz
