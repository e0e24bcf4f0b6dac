import PlainQuiz.Proofs.Terminal.IdLine
import PlainQuiz.Proofs.Terminal.Reply

set_option autoImplicit false

namespace PlainQuiz

namespace Grade

variable {α : Type} [BEq α]

def mutualMembers (a b : List α) : Bool := a.all (b.contains ·) && b.all (a.contains ·)

variable [LawfulBEq α]

theorem mutualMembers_eq_true_iff {a b : List α} :
    mutualMembers a b = true ↔ ∀ x, x ∈ a ↔ x ∈ b := by
  simp only [mutualMembers, Bool.and_eq_true, List.all_eq_true, List.contains_iff_mem]
  exact ⟨fun ⟨into, back⟩ x => ⟨into x, back x⟩,
    fun same => ⟨fun x => (same x).mp, fun x => (same x).mpr⟩⟩

theorem sameMembers_distinct (a b : List α) :
    sameMembers (distinct a) (distinct b) = mutualMembers (distinct a) (distinct b) := by
  rw [Bool.eq_iff_iff, sameMembers_distinct_iff, mutualMembers_eq_true_iff]
  simp only [mem_distinct_iff]

-- Where repetitions are kept, the lengths do decide.
example : sameMembers ["A", "A"] ["A"] = false ∧ mutualMembers ["A", "A"] ["A"] = true := by decide

end Grade

theorem Reply.mem_ids_trim_iff {line id : Text} :
    id ∈ ids (Text.trim line) ↔ id ≠ [] ∧ id ∈ Text.splitCommas line := by
  rw [ids_trim, List.mem_filter, decide_eq_true_iff, and_comm]

namespace Question

variable {question : Question}

theorem gradeSelection_eq_mutualMembers (question : Question) (ids : List Text) :
    question.gradeSelection ids =
      Grade.mutualMembers (Grade.distinct ids) (Grade.distinct question.answers) :=
  Grade.sameMembers_distinct ids question.answers

theorem gradeSelection_congr {ids others : List Text} (same : ∀ id, id ∈ ids ↔ id ∈ others) :
    question.gradeSelection ids = question.gradeSelection others := by
  rw [Bool.eq_iff_iff, gradeSelection_eq_true_iff, gradeSelection_eq_true_iff]
  simp only [same]

section Choice

variable (choice : question.kind = .multipleChoice)

include choice

theorem grade_selection (ids : List Text) :
    question.grade (.selection ids) =
      .ok ⟨question.gradeSelection ids, question.answerSummary⟩ := by
  simp only [grade, isCorrect, choice, Except.map]

theorem gradeLine_selection (labels : Labels) (line : Text) :
    question.gradeLine labels line =
      .ok (.ok ⟨question.gradeSelection (Reply.ids (Text.trim line)), question.answerSummary⟩) := by
  have read : question.response labels line = .ok (.selection (Reply.ids (Text.trim line))) := by
    simp only [response, choice]
  rw [gradeLine_of_response read, grade_selection choice]

/-- A selection is right exactly when it has the same ids as the answers, in whatever order and
however often. The verdict on a line is that on the set of its pieces that are not empty. -/
theorem selection_graded_as_set :
    (∀ ids, ∃ verdict, question.grade (.selection ids) = .ok verdict ∧
      (verdict.correct = true ↔ ∀ id, id ∈ ids ↔ id ∈ question.answers)) ∧
    (∀ ids, question.gradeSelection ids =
      Grade.mutualMembers (Grade.distinct ids) (Grade.distinct question.answers)) ∧
    (∀ labels line, ∃ verdict, question.gradeLine labels line = .ok (.ok verdict) ∧
      (verdict.correct = true ↔
        ∀ id, (id ≠ [] ∧ id ∈ Text.splitCommas line) ↔ id ∈ question.answers)) ∧
    ∀ labels labelsOther line other,
      (∀ id ≠ [], id ∈ Text.splitCommas line ↔ id ∈ Text.splitCommas other) →
      question.gradeLine labels line = question.gradeLine labelsOther other := by
  refine ⟨fun ids => ⟨_, grade_selection choice ids, gradeSelection_eq_true_iff⟩,
    question.gradeSelection_eq_mutualMembers,
    fun labels line => ⟨_, gradeLine_selection choice labels line, ?_⟩, ?_⟩
  · simp only [gradeSelection_eq_true_iff, Reply.mem_ids_trim_iff]
  · intro labels labelsOther line other same
    have listed : ∀ id, id ∈ Reply.ids (Text.trim line) ↔ id ∈ Reply.ids (Text.trim other) := by
      intro id
      rw [Reply.mem_ids_trim_iff, Reply.mem_ids_trim_iff]
      exact and_congr_right (same id)
    rw [gradeLine_selection choice, gradeLine_selection choice, gradeSelection_congr listed]

end Choice

-- The author repeats an id, and the quiz taker repeats another one.
def repeatedIds : Text := "-- Question Q\n-- A\nx\n-- B\ny\n-- C\nz\n-- Answer B, A, B"

def repeatedIdsQuestion : Question :=
  ⟨.multipleChoice, "Q", [⟨"A", "x"⟩, ⟨"B", "y"⟩, ⟨"C", "z"⟩], [("B" : Text), "A", "B"],
    "B, A, B"⟩

theorem selection_graded_as_set_repeated :
    Question.ofBlock repeatedIds = .ok repeatedIdsQuestion ∧
      repeatedIdsQuestion.kind = .multipleChoice ∧
      (∃ verdict, repeatedIdsQuestion.grade (.selection [("A" : Text), "A", "B"]) = .ok verdict ∧
        verdict.correct = true) ∧
      (∃ verdict, repeatedIdsQuestion.grade (.selection [("A" : Text), "B", "C"]) = .ok verdict ∧
        verdict.correct ≠ true) ∧
      repeatedIdsQuestion.gradeLine .standard " ,A,, B ,A" =
        repeatedIdsQuestion.gradeLine .standard "B,A" := by
  have parsed : Question.ofBlock repeatedIds = .ok repeatedIdsQuestion := by decide +kernel
  have choice : repeatedIdsQuestion.kind = .multipleChoice := rfl
  obtain ⟨graded, -, -, onPieces⟩ := selection_graded_as_set choice
  refine ⟨parsed, choice, ?right, ?wrong, ?line⟩
  case right =>
    obtain ⟨verdict, result, correct⟩ := graded [("A" : Text), "A", "B"]
    refine ⟨verdict, result, correct.mpr fun id => ?_⟩
    simp only [repeatedIdsQuestion, List.mem_cons, List.not_mem_nil, or_false]
    grind
  case wrong =>
    obtain ⟨verdict, result, correct⟩ := graded [("A" : Text), "B", "C"]
    refine ⟨verdict, result, fun right => ?_⟩
    exact absurd ((correct.mp right ['C']).mp (by decide)) (by decide)
  case line =>
    refine onPieces .standard .standard " ,A,, B ,A" "B,A" fun id filled => ?_
    have pieces : Text.splitCommas " ,A,, B ,A" = [[], ("A" : Text), [], "B", "A"] := by decide
    have others : Text.splitCommas "B,A" = [("B" : Text), "A"] := by decide
    rw [pieces, others]
    simp only [List.mem_cons, List.not_mem_nil, or_false]
    grind

end Question

end PlainQuiz
