import PlainQuiz.Proofs.Block.Shape
import PlainQuiz.Proofs.Review

set_option autoImplicit false

namespace PlainQuiz

namespace Review

theorem sortAnswers_eq_nil_iff {ids listed answers : List Text} :
    sortAnswers ids listed answers = [] ↔ answers ⊆ ids ∧ Fresh listed answers := by
  induction answers generalizing listed with
  | nil => simp [sortAnswers, Fresh]
  | cons answer rest ih =>
    rw [sortAnswers, List.append_eq_nil_iff, List.append_eq_nil_iff, ih, fresh_cons_iff,
      List.cons_subset]
    by_cases known : answer ∈ ids <;> by_cases repeated : answer ∈ listed <;>
      simp [known, repeated]

theorem omittedOptions_eq_nil_iff {ids answers : List Text} :
    omittedOptions ids answers = [] ↔ ids ⊆ answers := by
  have nothing : ids.filter (!answers.contains ·) = [] ↔ ids ⊆ answers := by
    simp [List.filter_eq_nil_iff, List.subset_def]
  rw [← nothing, omittedOptions]
  split <;> simp_all

theorem sort_eq_nil_iff {ids answers : List Text} (distinct : ids.Nodup) :
    sortAnswers ids [] answers ++ omittedOptions ids answers = [] ↔ answers.Perm ids := by
  rw [List.append_eq_nil_iff, sortAnswers_eq_nil_iff, omittedOptions_eq_nil_iff, fresh_nil_iff]
  constructor
  · rintro ⟨⟨known, unrepeated⟩, complete⟩
    exact (List.perm_ext_iff_of_nodup unrepeated distinct).mpr fun answer =>
      ⟨fun member => known member, fun member => complete member⟩
  · intro rearranged
    exact ⟨⟨rearranged.subset, rearranged.nodup_iff.mpr distinct⟩, rearranged.symm.subset⟩

end Review

namespace Question

variable {question : Question}

theorem option?_eq_none_iff {id : Text} : question.option? id = none ↔ id ∉ question.optionIds := by
  simp [option?, optionIds, List.find?_eq_none]

theorem unknownAnswers_eq_nil_iff :
    Review.unknownAnswers question = [] ↔
      ∀ answer ∈ question.answers, answer ≠ [] → answer ∈ question.optionIds := by
  simp [Review.unknownAnswers, List.filter_eq_nil_iff, option?_eq_none_iff]

theorem WellShaped.nil_not_mem_optionIds (shaped : question.WellShaped) :
    [] ∉ question.optionIds := by
  intro member
  obtain ⟨choice, among, empty⟩ := List.mem_map.mp member
  exact (shaped.optionIds choice among).filled empty

section References

variable (named : [] ∉ question.optionIds)

include named

theorem warnings_eq_nil_iff_of_sort (sort : question.kind = .sort) :
    question.warnings = [] ↔
      question.optionIds.Nodup ∧ question.answers.Perm question.optionIds := by
  rw [warnings_eq_nil_iff, Review.forKind, sort]
  refine and_congr_right fun distinct => ?_
  rw [Review.sort_eq_nil_iff distinct]
  exact and_iff_right_of_imp fun rearranged empty => named (rearranged.subset empty)

theorem warnings_eq_nil_iff_of_multipleChoice (choice : question.kind = .multipleChoice) :
    question.warnings = [] ↔
      question.optionIds.Nodup ∧ ∀ answer ∈ question.answers, answer ∈ question.optionIds := by
  rw [warnings_eq_nil_iff, Review.forKind, choice]
  refine and_congr_right fun _ => ?_
  rw [unknownAnswers_eq_nil_iff]
  -- An empty answer is reported by another check than an unknown one.
  constructor
  · rintro ⟨filled, known⟩ answer member
    exact known answer member fun empty => filled (empty ▸ member)
  · intro known
    exact ⟨fun empty => named (known [] empty), fun answer member _ => known answer member⟩

end References

/-- A parsed question of one of the two kinds that refer to options has no warnings exactly when the
ids of its options differ and its answers are all of them, for a sort question, or some of them, for
a multiple choice question. -/
theorem warnings_eq_nil_iff_references {source : Text}
    (parsed : Question.ofBlock source = .ok question) :
    (question.kind = .sort →
      (question.warnings = [] ↔
        question.optionIds.Nodup ∧ question.answers.Perm question.optionIds)) ∧
    (question.kind = .multipleChoice →
      (question.warnings = [] ↔
        question.optionIds.Nodup ∧ ∀ answer ∈ question.answers, answer ∈ question.optionIds)) := by
  have named := (wellShaped_of_ofBlock parsed).nil_not_mem_optionIds
  exact ⟨warnings_eq_nil_iff_of_sort named, warnings_eq_nil_iff_of_multipleChoice named⟩

def rearranged : Text :=
  "-- Type sort\n-- Question In order\n-- Step two\nx\n-- É\ny\n-- Answer É , Step two"

def rearrangedQuestion : Question :=
  ⟨.sort, "In order", [⟨"Step two", "x"⟩, ⟨"É", "y"⟩], [("É" : Text), "Step two"], "É , Step two"⟩

-- A choice may be listed twice, an arrangement may not.
def listedTwice : Text := "-- Question Q\n-- A\nx\n-- B\ny\n-- Answer B, A, B"

def listedTwiceQuestion : Question :=
  ⟨.multipleChoice, "Q", [⟨"A", "x"⟩, ⟨"B", "y"⟩], [("B" : Text), "A", "B"], "B, A, B"⟩

def sortedTwice : Text := "-- Type sort\n" ++ listedTwice

def sortedTwiceQuestion : Question := { listedTwiceQuestion with kind := .sort }

theorem warnings_eq_nil_iff_listedTwice :
    Question.ofBlock rearranged = .ok rearrangedQuestion ∧ rearrangedQuestion.warnings = [] ∧
      Question.ofBlock listedTwice = .ok listedTwiceQuestion ∧ listedTwiceQuestion.warnings = [] ∧
      Question.ofBlock sortedTwice = .ok sortedTwiceQuestion ∧
      sortedTwiceQuestion.warnings ≠ [] := by
  have parsed : Question.ofBlock rearranged = .ok rearrangedQuestion := by decide +kernel
  have parsedChoice : Question.ofBlock listedTwice = .ok listedTwiceQuestion := by decide +kernel
  have parsedSort : Question.ofBlock sortedTwice = .ok sortedTwiceQuestion := by decide +kernel
  refine ⟨parsed, ?_, parsedChoice, ?_, parsedSort, ?_⟩
  · exact ((warnings_eq_nil_iff_references parsed).1 rfl).mpr (by decide)
  · exact ((warnings_eq_nil_iff_references parsedChoice).2 rfl).mpr (by decide)
  · rw [Ne, (warnings_eq_nil_iff_references parsedSort).1 rfl]
    decide

end Question

end PlainQuiz
