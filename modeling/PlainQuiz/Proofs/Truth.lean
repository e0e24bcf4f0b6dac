import Mathlib.Logic.ExistsUnique
import PlainQuiz.Proofs.Block.Finish
import PlainQuiz.Proofs.Grade
import PlainQuiz.Proofs.Text.LetterCase
import PlainQuiz.Terminal.Reply

set_option autoImplicit false

namespace PlainQuiz

def Labels.ofTruth (labels : Labels) : Bool → Text
  | true => labels.trueLabel
  | false => labels.falseLabel

namespace Answer

theorem isPlain_of_mem_truthText {value : Bool} :
    ∀ c ∈ truthText value, Text.isPlain c = true := by
  rw [← List.all_eq_true]
  cases value <;> rfl

theorem truthText_injective {text : Text} {value other : Bool}
    (same : Text.sameIgnoringAsciiCase text (truthText value) = true)
    (also : Text.sameIgnoringAsciiCase text (truthText other) = true) : value = other := by
  have lowered := (Text.map_toLower_eq same).symm.trans (Text.map_toLower_eq also)
  revert lowered
  cases value <;> cases other <;> decide

theorem splitCommas_truthText (value : Bool) :
    Text.splitCommas (truthText value) = [truthText value] := by
  cases value <;> decide

theorem splitCommas_eq_singleton {text piece : Text} (trimmed : Text.trim text = text)
    (single : Text.splitCommas text = [piece]) : text = piece := by
  rw [Text.splitCommas, List.map_eq_singleton_iff] at single
  obtain ⟨whole, cut, rfl⟩ := single
  have joined : [','].intercalate (text.splitOn ',') = text := List.intercalate_splitOn ','
  rw [cut] at joined
  rw [← trimmed, ← joined]
  simp

theorem interpret_eq_truthText_iff (kind : Kind) (prompt : Text) {text : Text}
    (trimmed : Text.trim text = text) :
    (∃ value, interpret kind prompt text = [truthText value]) ↔
      kind = .trueFalse ∨ ∃ value, text = truthText value := by
  have split : (∃ value, Text.splitCommas text = [truthText value]) ↔
      ∃ value, text = truthText value := by
    constructor
    · rintro ⟨value, single⟩
      exact ⟨value, splitCommas_eq_singleton trimmed single⟩
    · rintro ⟨value, rfl⟩
      exact ⟨value, splitCommas_truthText value⟩
  cases kind with
  | trueFalse => simp [interpret]
  | fillBlank =>
    by_cases few : Prompt.countGaps prompt ≤ 1
    · simp [interpret, few]
    · simpa [interpret, few] using split
  | multipleChoice | freeText | sort => simpa [interpret] using split

end Answer

namespace Question

variable {question : Question} (truth : question.kind = .trueFalse)

include truth

theorem grade_truth (choice : Bool) :
    question.grade (.truth (some choice)) =
      .ok ⟨Text.sameIgnoringAsciiCase (question.answers.headD []) (Answer.truthText choice),
        question.answerSummary⟩ := by
  have graded : (Text.lower (question.answers.headD []) == Answer.truthText choice) =
      Text.sameIgnoringAsciiCase (question.answers.headD []) (Answer.truthText choice) := by
    rw [Bool.eq_iff_iff, beq_iff_eq]
    exact Text.lower_eq_iff Answer.isPlain_of_mem_truthText
  have decided : question.isCorrect (.truth (some choice)) = question.gradeTruth (some choice) := by
    simp only [isCorrect, truth]
  rw [grade, decided, ← graded]
  cases choice <;> rfl

theorem accepts_truth_iff (choice : Bool) :
    question.Accepts (.truth (some choice)) ↔
      Text.sameIgnoringAsciiCase (question.answers.headD []) (Answer.truthText choice) = true := by
  rw [Accepts, grade_truth truth]
  simp

theorem existsUnique_accepts_iff :
    (∃! choice, question.Accepts (.truth (some choice))) ↔
      ∃ value, Text.sameIgnoringAsciiCase (question.answers.headD []) (Answer.truthText value) =
        true := by
  simp only [accepts_truth_iff truth]
  constructor
  · exact ExistsUnique.exists
  · rintro ⟨value, same⟩
    exact ⟨value, same, fun other also => Answer.truthText_injective also same⟩

theorem verdict_of_accepts {value : Bool} (accepted : question.Accepts (.truth (some value)))
    (labels : Labels) :
    labels.verdict question (question.grade (.truth (some !value))) =
      (some .incorrect, labels.incorrect ++ " " ++ labels.ofTruth value) := by
  have same := (accepts_truth_iff truth value).mp accepted
  have wrong : Text.sameIgnoringAsciiCase (question.answers.headD [])
      (Answer.truthText !value) = false := by
    refine Bool.eq_false_iff.mpr fun also => ?_
    simpa using Answer.truthText_injective same also
  rw [grade_truth truth, wrong]
  simp only [Labels.verdict, truth, answerSummary, Labels.forTruth, Bool.false_eq_true, if_false,
    if_true]
  cases value with
  | true =>
    rw [if_pos (show Text.sameIgnoringAsciiCase _ "true" = true from same)]
    rfl
  | false =>
    rw [if_neg (Bool.eq_false_iff.mp
      (show Text.sameIgnoringAsciiCase _ "true" = false from wrong))]
    rfl

omit truth

open Block in
/-- When a parsed true/false question has a truth value for its answer, when exactly one response
is accepted, and what the other one is told. -/
theorem truth_of_ofBlock {source : Text} (parsed : Question.ofBlock source = .ok question)
    (truth : question.kind = .trueFalse) :
    ∃ above text, Reading.lastAnswer? (contentLines source) = some (above, text) ∧
      question.answers = Answer.interpret (Reading.kind above) (Reading.prompt above) text ∧
      ((∃ value, question.answers = [Answer.truthText value]) ↔
        Reading.kind above = .trueFalse ∨ ∃ value, text = Answer.truthText value) ∧
      ((∃! choice, question.Accepts (.truth (some choice))) ↔
        ∃ value, Text.sameIgnoringAsciiCase (question.answers.headD []) (Answer.truthText value) =
          true) ∧
      ∀ value, question.Accepts (.truth (some value)) → ∀ labels : Labels,
        labels.verdict question (question.grade (.truth (some !value))) =
          (some .incorrect, labels.incorrect ++ " " ++ labels.ofTruth value) := by
  obtain ⟨above, text, last, interpreted, _⟩ := answered_of_ofBlock parsed
  obtain ⟨trimmed, _, _⟩ := trim_of_lastAnswer? last
  refine ⟨above, text, last, interpreted, ?_, existsUnique_accepts_iff truth, ?_⟩
  · rw [interpreted]
    exact Answer.interpret_eq_truthText_iff _ _ trimmed
  · exact fun value accepted labels => verdict_of_accepts truth accepted labels

def secondAnswer : Text := "-- Answer no\n-- Type tf\n-- Question Q\n-- Answer WAHR"

def secondAnswerQuestion : Question := ⟨.trueFalse, "Q", [], [("true" : Text)], "WAHR"⟩

theorem secondAnswer_accepts_one :
    Question.ofBlock secondAnswer = .ok secondAnswerQuestion ∧
      ∃! choice, secondAnswerQuestion.Accepts (.truth (some choice)) := by
  have parsed : Question.ofBlock secondAnswer = .ok secondAnswerQuestion := by decide
  obtain ⟨_, _, _, _, _, unique, _⟩ := truth_of_ofBlock parsed rfl
  exact ⟨parsed, unique.mpr ⟨true, by decide⟩⟩

def lateKind : Text := "-- Question Q\n-- Answer wahr\n-- Type tf"

def lateKindQuestion : Question := ⟨.trueFalse, "Q", [], [("wahr" : Text)], "wahr"⟩

theorem lateKind_accepts_nothing :
    Question.ofBlock lateKind = .ok lateKindQuestion ∧ lateKindQuestion.kind = .trueFalse ∧
      (∀ value, lateKindQuestion.answers ≠ [Answer.truthText value]) ∧
      ∀ choice, ¬ lateKindQuestion.Accepts (.truth (some choice)) := by
  refine ⟨by decide, rfl, by decide, fun choice accepted => ?_⟩
  have same := (accepts_truth_iff rfl choice).mp accepted
  revert same
  cases choice <;> decide

end Question

end PlainQuiz
