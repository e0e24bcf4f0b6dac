import PlainQuiz.Proofs.Authored
import PlainQuiz.Proofs.Block.Captured
import PlainQuiz.Proofs.Block.Shape

set_option autoImplicit false

namespace PlainQuiz

theorem Answer.interpret_of_listing {kind : Kind} (listing : kind = .multipleChoice ∨ kind = .sort)
    (prompt text : Text) : interpret kind prompt text = Text.splitCommas text := by
  rcases listing with rfl | rfl
  · rfl
  · rfl

theorem Reply.ids_trim (text : Text) :
    ids (Text.trim text) = (Text.splitCommas text).filter (· ≠ []) := by
  rw [ids, Text.splitCommas_trim]

theorem Reply.ids_trim_eq_iff {text : Text} :
    ids (Text.trim text) = Text.splitCommas text ↔ [] ∉ Text.splitCommas text := by
  rw [ids_trim, List.filter_eq_self]
  simp only [ne_eq, decide_not, Bool.not_eq_true', decide_eq_false_iff_not]
  exact ⟨fun filled empty => filled [] empty rfl, fun filled piece member empty =>
    filled (empty ▸ member)⟩

namespace Question

open Block Reading

variable {question : Question} {labels : Labels} {line : Text}
  (listing : question.kind = .multipleChoice ∨ question.kind = .sort)

include listing

theorem mem_ids_of_accepts {response : Response}
    (read : question.response labels line = .ok response) (accepted : question.Accepts response)
    {answer : Text} (member : answer ∈ question.answers) : answer ∈ Reply.ids (Text.trim line) := by
  rw [accepts_iff] at accepted
  rcases listing with choice | sort
  · simp only [Question.response, choice] at read
    obtain rfl := Except.ok.inj read
    simp only [isCorrect, choice, Except.ok.injEq, gradeSelection_eq_true_iff] at accepted
    exact (accepted answer).mpr member
  · simp only [Question.response, sort] at read
    obtain rfl := Except.ok.inj read
    simp only [isCorrect, sort, Except.ok.injEq, gradeOrder_eq_true_iff] at accepted
    rwa [accepted]

theorem accepts_of_ids (labels : Labels) (same : Reply.ids (Text.trim line) = question.answers) :
    ∃ response, question.response labels line = .ok response ∧ question.Accepts response := by
  rcases listing with choice | sort
  · refine ⟨.selection question.answers, ?_, accepts_selection choice⟩
    simp only [Question.response, choice, same]
  · refine ⟨.order question.answers, ?_, accepts_order sort⟩
    simp only [Question.response, sort, same]

theorem ids_rawAnswer {source : Text} (parsed : Question.ofBlock source = .ok question)
    (settled : KindSettled (contentLines source)) (filled : [] ∉ question.answers) :
    Reply.ids (Text.trim question.rawAnswer) = question.answers := by
  obtain ⟨prompt, answers⟩ := answers_of_kindSettled parsed settled
  rw [Answer.interpret_of_listing listing] at answers
  rw [answers] at filled ⊢
  exact Reply.ids_trim_eq_iff.mpr filled

/-- A parsed question that lists options, of a kind that was named above its answer, can be answered
in one line exactly when no answer is empty, and then by the line of its author. -/
theorem exists_accepted_ids_iff {source : Text} (parsed : Question.ofBlock source = .ok question)
    (settled : KindSettled (contentLines source)) (labels : Labels) :
    ((∃ line response, '\n' ∉ line ∧ question.response labels line = .ok response ∧
        question.Accepts response) ↔ [] ∉ question.answers) ∧
    ([] ∉ question.answers → '\n' ∉ question.rawAnswer ∧
      ∃ response, question.response labels question.rawAnswer = .ok response ∧
        question.Accepts response) ∧
    ∀ prompt text,
      Reply.ids (Text.trim text) =
        (Answer.interpret question.kind prompt text).filter (· ≠ []) ∧
      (Reply.ids (Text.trim text) = Answer.interpret question.kind prompt text ↔
        [] ∉ Answer.interpret question.kind prompt text) := by
  have whole := (wellShaped_of_ofBlock parsed).rawAnswer.whole
  have authored (filled : [] ∉ question.answers) :
      ∃ response, question.response labels question.rawAnswer = .ok response ∧
        question.Accepts response :=
    accepts_of_ids listing labels (ids_rawAnswer listing parsed settled filled)
  refine ⟨⟨?filled, ?reached⟩, fun filled => ⟨whole, authored filled⟩, ?pieces⟩
  case filled =>
    rintro ⟨line, response, _, read, accepted⟩ empty
    have listed := mem_ids_of_accepts listing read accepted empty
    simp [Reply.ids] at listed
  case reached =>
    intro filled
    obtain ⟨response, read, accepted⟩ := authored filled
    exact ⟨question.rawAnswer, response, whole, read, accepted⟩
  case pieces =>
    intro prompt text
    rw [Answer.interpret_of_listing listing]
    exact ⟨Reply.ids_trim text, Reply.ids_trim_eq_iff⟩

omit listing

-- The answer stands below a bare directive, its ids hold blanks.
def steps : Text :=
  "-- Type sort\n-- Question Q\n-- Step 1\nx\n-- Step 2\n-- Answer\n Step 2 , Step 1"

def stepsQuestion : Question :=
  ⟨.sort, "Q", [⟨"Step 1", "x"⟩, ⟨"Step 2", []⟩], [("Step 2" : Text), "Step 1"],
    "Step 2 , Step 1"⟩

def trailingComma : Text := "-- Question Q\n-- A\nx\n-- Answer A,\n-- B"

def trailingCommaQuestion : Question :=
  ⟨.multipleChoice, "Q", [⟨"A", "x"⟩, ⟨"B", []⟩], [("A" : Text), []], "A,"⟩

theorem exists_accepted_ids_steps :
    Question.ofBlock steps = .ok stepsQuestion ∧ KindSettled (contentLines steps) ∧
      (∃ response, stepsQuestion.response .standard "Step 2 , Step 1" = .ok response ∧
        stepsQuestion.Accepts response) ∧
      Question.ofBlock trailingComma = .ok trailingCommaQuestion ∧
      KindSettled (contentLines trailingComma) ∧
      ¬ ∃ line response, '\n' ∉ line ∧
        trailingCommaQuestion.response .standard line = .ok response ∧
        trailingCommaQuestion.Accepts response := by
  have parsed : Question.ofBlock steps = .ok stepsQuestion := by decide +kernel
  have parsedComma : Question.ofBlock trailingComma = .ok trailingCommaQuestion := by decide
  have settled : KindSettled (contentLines steps) := by
    have captures : Captures
        ["-- Type sort", "-- Question Q", "-- Step 1", "x", "-- Step 2", "-- Answer"]
        "Step 2 , Step 1" "Step 2 , Step 1" := answer?_eq_some_iff.mp (by decide)
    exact ⟨by decide, captures, (by decide : Silent _ []), by decide⟩
  have settledComma : KindSettled (contentLines trailingComma) := by
    have captures : Captures ["-- Question Q", "-- A", "x"] "-- Answer A," "A," :=
      answer?_eq_some_iff.mp (by decide)
    exact ⟨by decide, captures, (by decide : Silent _ ["-- B"]), by decide⟩
  obtain ⟨-, own, -⟩ := exists_accepted_ids_iff (.inr rfl) parsed settled .standard
  obtain ⟨reached, -, -⟩ := exists_accepted_ids_iff (.inl rfl) parsedComma settledComma .standard
  refine ⟨parsed, settled, (own (by decide)).2, parsedComma, settledComma, ?_⟩
  rw [reached]
  decide

end Question

end PlainQuiz
