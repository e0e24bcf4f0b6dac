import PlainQuiz.Proofs.Access
import PlainQuiz.Proofs.Grade
import PlainQuiz.Proofs.Text.Trim

set_option autoImplicit false

namespace PlainQuiz.Question

open Access

variable {question : Question} {fillings : List Text}

def HasWords (fillings : List Text) (index : Nat) : Prop :=
  ∃ filling, fillings[index]? = some filling ∧ ∃ c ∈ filling, Text.isBlank c = false

theorem isFilled_iff_hasWords {index : Nat} :
    isFilled fillings index = true ↔ HasWords fillings index := by
  simp only [isFilled_eq_true_iff, HasWords, Ne, Text.trim_eq_nil_iff, not_forall, exists_prop,
    Bool.not_eq_true]

structure FirstGap (question : Question) (fillings : List Text) (index : Nat) : Prop where
  within : index < question.blankCount
  wordless : ¬ HasWords fillings index
  before : ∀ earlier < index, HasWords fillings earlier

theorem FirstGap.unique {index other : Nat} (first : question.FirstGap fillings index)
    (also : question.FirstGap fillings other) : index = other := by
  rcases Nat.lt_trichotomy index other with before | same | after
  · exact absurd (also.before index before) first.wordless
  · exact same
  · exact absurd (first.before other after) also.wordless

theorem exists_firstGap_or (question : Question) (fillings : List Text) :
    (∃ index, question.FirstGap fillings index ∧
        question.gradeBlanks fillings = .error (.emptyBlank (index + 1))) ∨
      ((∀ index < question.blankCount, HasWords fillings index) ∧
        question.gradeBlanks fillings =
          if question.IsShort then
            .error (.tooFewAnswers question.answers.length question.blankCount)
          else .ok ((List.range question.blankCount).all (question.fits fillings))) := by
  have graded := question.gradesBlanks fillings
  generalize question.gradeBlanks fillings = result at graded
  cases graded with
  | gap index within empty before =>
    refine .inl ⟨index, ⟨within, ?_, fun earlier above => ?_⟩, rfl⟩
    · rw [← isFilled_iff_hasWords, empty]
      exact Bool.false_ne_true
    · exact isFilled_iff_hasWords.mp (before earlier above)
  | short filled few =>
    exact .inr ⟨fun index within => isFilled_iff_hasWords.mp (filled index within),
      (if_pos few).symm⟩
  | compared filled enough =>
    exact .inr ⟨fun index within => isFilled_iff_hasWords.mp (filled index within),
      (if_neg (Nat.not_lt.mpr enough)).symm⟩

theorem gradeBlanks_of_firstGap {index : Nat} (first : question.FirstGap fillings index) :
    question.gradeBlanks fillings = .error (.emptyBlank (index + 1)) := by
  rcases question.exists_firstGap_or fillings with ⟨other, also, graded⟩ | ⟨filled, _⟩
  · rw [graded, also.unique first]
  · exact absurd (filled index first.within) first.wordless

theorem gradeBlanks_of_no_gap (none : ∀ index, ¬ question.FirstGap fillings index) :
    question.gradeBlanks fillings =
      if question.IsShort then
        .error (.tooFewAnswers question.answers.length question.blankCount)
      else .ok ((List.range question.blankCount).all (question.fits fillings)) := by
  rcases question.exists_firstGap_or fillings with ⟨index, first, _⟩ | ⟨_, graded⟩
  · exact absurd first (none index)
  · exact graded

section Prefix

variable {other : Question} {others : List Text}
  (sameFillings : others.take question.blankCount = fillings.take question.blankCount)

include sameFillings

theorem hasWords_of_take_eq {index : Nat} (within : index < question.blankCount) :
    HasWords others index ↔ HasWords fillings index := by
  unfold HasWords
  rw [← List.getElem?_take_of_lt within, sameFillings, List.getElem?_take_of_lt within]

theorem firstGap_of_take_eq (sameCount : other.blankCount = question.blankCount) {index : Nat} :
    other.FirstGap others index ↔ question.FirstGap fillings index := by
  constructor
  · rintro ⟨within, wordless, before⟩
    rw [sameCount] at within
    rw [hasWords_of_take_eq sameFillings within] at wordless
    exact ⟨within, wordless, fun earlier above =>
      (hasWords_of_take_eq sameFillings (by omega)).mp (before earlier above)⟩
  · rintro ⟨within, wordless, before⟩
    rw [← hasWords_of_take_eq sameFillings within] at wordless
    exact ⟨sameCount ▸ within, wordless, fun earlier above =>
      (hasWords_of_take_eq sameFillings (by omega)).mpr (before earlier above)⟩

variable (sameAnswers :
  other.answers.take question.blankCount = question.answers.take question.blankCount)

include sameAnswers

theorem fits_of_take_eq {index : Nat} (within : index < question.blankCount) :
    other.fits others index = question.fits fillings index := by
  unfold fits
  rw [← List.getElem?_take_of_lt within, ← List.getElem?_take_of_lt within (l := other.answers),
    sameFillings, sameAnswers, List.getElem?_take_of_lt within, List.getElem?_take_of_lt within]

theorem gradeBlanks_of_take_eq (sameCount : other.blankCount = question.blankCount) :
    other.gradeBlanks others = question.gradeBlanks fillings := by
  have gaps (index : Nat) : other.FirstGap others index ↔ question.FirstGap fillings index :=
    firstGap_of_take_eq sameFillings sameCount
  by_cases gap : ∃ index, question.FirstGap fillings index
  · obtain ⟨index, first⟩ := gap
    rw [gradeBlanks_of_firstGap first, gradeBlanks_of_firstGap ((gaps index).mpr first)]
  · have none : ∀ index, ¬ question.FirstGap fillings index := not_exists.mp gap
    rw [gradeBlanks_of_no_gap none,
      gradeBlanks_of_no_gap fun index first => none index ((gaps index).mp first)]
    have compared : (List.range other.blankCount).all (other.fits others) =
        (List.range question.blankCount).all (question.fits fillings) := by
      rw [sameCount, Bool.eq_iff_iff, List.all_eq_true, List.all_eq_true]
      refine forall₂_congr fun index member => ?_
      rw [fits_of_take_eq sameFillings sameAnswers (List.mem_range.mp member)]
    -- A list of answers that is too short has nothing behind the last blank.
    have counted := congrArg List.length sameAnswers
    simp only [List.length_take] at counted
    have shortness : other.IsShort ↔ question.IsShort := by
      unfold IsShort
      omega
    by_cases short : question.IsShort
    · have length : other.answers.length = question.answers.length := by
        unfold IsShort at short
        omega
      rw [if_pos (shortness.mpr short), if_pos short, length, sameCount]
    · rw [if_neg (shortness.not.mpr short), if_neg short, compared]

end Prefix

-- The grader with the comparison by index, which ends in a fault at a place that is not there.
def gradeBlanksIndexed (question : Question) (fillings : List Text) :
    Except OutOfRange (Except GradeError Bool) :=
  let places := List.range question.blankCount
  match places.find? fun index => !isFilled fillings index with
  | some index => .ok (.error (.emptyBlank (index + 1)))
  | none =>
    if question.answers.length < question.blankCount then
      .ok (.error (.tooFewAnswers question.answers.length question.blankCount))
    else do
      let right ← places.allM fun index => do
        let filling ← item fillings index
        let answer ← item question.answers index
        return Text.sameIgnoringCase filling answer
      return .ok right

theorem fits_by_index {index : Nat} (filled : isFilled fillings index = true)
    (answered : index < question.answers.length) :
    (do
      let filling ← item fillings index
      let answer ← item question.answers index
      return Text.sameIgnoringCase filling answer : Except OutOfRange Bool) =
      .ok (question.fits fillings index) := by
  obtain ⟨filling, here, _⟩ := isFilled_eq_true_iff.mp filled
  have there : question.answers[index]? = some question.answers[index] :=
    List.getElem?_eq_getElem answered
  rw [item_eq_ok_iff.mpr here, item_of_lt answered, fits, here, there]
  rfl

theorem gradeBlanksIndexed_eq (question : Question) (fillings : List Text) :
    question.gradeBlanksIndexed fillings = .ok (question.gradeBlanks fillings) := by
  unfold gradeBlanksIndexed gradeBlanks
  cases searched : (List.range question.blankCount).find? fun index => !isFilled fillings index with
  | some index => simp only [searched]
  | none =>
    have filled : ∀ index < question.blankCount, isFilled fillings index = true := by
      simpa using List.find?_range_eq_none.mp searched
    by_cases few : question.answers.length < question.blankCount
    · simp only [searched, few, if_true]
    · have read : ∀ index ∈ List.range question.blankCount, _ = _ := fun index member =>
        fits_by_index (filled index (List.mem_range.mp member))
          (Nat.lt_of_lt_of_le (List.mem_range.mp member) (Nat.le_of_not_lt few))
      simp only [searched, few, if_false, allM_of_ok read]
      rfl

/-- The grader of blanks reports the first blank without words, then a short list of answers, and
then whether every filling is its answer. It reads nothing behind the last blank, and nothing that
is not there. -/
theorem gradeBlanks_in_order (question : Question) (fillings : List Text) :
    (∀ index, question.FirstGap fillings index →
      question.gradeBlanks fillings = .error (.emptyBlank (index + 1))) ∧
    ((∀ index, ¬ question.FirstGap fillings index) →
      (question.answers.length < question.blankCount →
        question.gradeBlanks fillings =
          .error (.tooFewAnswers question.answers.length question.blankCount)) ∧
      (question.blankCount ≤ question.answers.length →
        ∃ right, question.gradeBlanks fillings = .ok right ∧
          (right = true ↔ ∀ index < question.blankCount,
            ∃ filling answer, fillings[index]? = some filling ∧
              question.answers[index]? = some answer ∧
              Text.lower filling = Text.lower answer))) ∧
    (∀ (other : Question) (others : List Text), other.blankCount = question.blankCount →
      others.take question.blankCount = fillings.take question.blankCount →
      other.answers.take question.blankCount = question.answers.take question.blankCount →
      other.gradeBlanks others = question.gradeBlanks fillings) ∧
    question.gradeBlanksIndexed fillings = .ok (question.gradeBlanks fillings) := by
  refine ⟨fun index => gradeBlanks_of_firstGap,
    fun none => ⟨fun few => ?short, fun enough => ?full⟩,
    fun other others sameCount sameFillings sameAnswers =>
      gradeBlanks_of_take_eq sameFillings sameAnswers sameCount,
    gradeBlanksIndexed_eq question fillings⟩
  case short =>
    have short : question.IsShort := few
    rw [gradeBlanks_of_no_gap none, if_pos short]
  case full =>
    have complete : ¬ question.IsShort := Nat.not_lt.mpr enough
    refine ⟨_, by rw [gradeBlanks_of_no_gap none, if_neg complete], ?_⟩
    simp only [List.all_eq_true, List.mem_range, fits_eq_true_iff]

-- One answer for two blanks.
def halfAnswered : Question := ⟨.fillBlank, "[blank] [blank]", [], [("Go" : Text)], "Go"⟩

def surplusAnswers : Question :=
  ⟨.fillBlank, "[blank] [blank]", [], [("Go" : Text), "ΟΔΟΣ", "x"], "Go, ΟΔΟΣ, x"⟩

theorem gradeBlanks_in_order_halfAnswered :
    -- An empty blank comes before the missing answer.
    halfAnswered.gradeBlanks [("go" : Text), "\t", "x"] = .error (.emptyBlank 2) ∧
      halfAnswered.gradeBlanks [("go" : Text), "x"] = .error (.tooFewAnswers 1 2) ∧
      surplusAnswers.gradeBlanks [("gO" : Text), "οδος"] = .ok true ∧
      surplusAnswers.gradeBlanks [("gO" : Text), "οδος", "", "z"] = .ok true := by
  have gap : halfAnswered.FirstGap [("go" : Text), "\t", "x"] 1 := by
    refine ⟨by decide, ?_, fun earlier above => ?_⟩
    · rw [← isFilled_iff_hasWords]
      decide
    · obtain rfl : earlier = 0 := by omega
      exact isFilled_iff_hasWords.mp (by decide)
  have solid (question : Question) (fillings : List Text) (counted : question.blankCount = 2)
      (filled : isFilled fillings 0 = true ∧ isFilled fillings 1 = true) :
      ∀ index, ¬ question.FirstGap fillings index := by
    intro index first
    have within := first.within
    refine first.wordless (isFilled_iff_hasWords.mp ?_)
    obtain rfl | rfl : index = 0 ∨ index = 1 := by omega
    · exact filled.1
    · exact filled.2
  obtain ⟨empty, -⟩ := gradeBlanks_in_order halfAnswered [("go" : Text), "\t", "x"]
  obtain ⟨-, few, -⟩ := gradeBlanks_in_order halfAnswered [("go" : Text), "x"]
  obtain ⟨-, full, behind, -⟩ := gradeBlanks_in_order surplusAnswers [("gO" : Text), "οδος"]
  obtain ⟨right, graded, fit⟩ :=
    (full (solid _ _ (by decide) (by decide))).2 (by decide)
  obtain rfl : right = true := by
    refine fit.mpr fun index within => ?_
    have bound : index < 2 := within
    obtain rfl | rfl : index = 0 ∨ index = 1 := by omega
    · exact ⟨"gO", "Go", rfl, rfl, by decide⟩
    · exact ⟨"οδος", "ΟΔΟΣ", rfl, rfl, by decide +kernel⟩
  refine ⟨empty 1 gap, (few (solid _ _ (by decide) (by decide))).1 (by decide), graded, ?_⟩
  rw [← graded]
  exact behind surplusAnswers _ rfl rfl rfl

end PlainQuiz.Question
