import Mathlib.Data.List.Forall2
import PlainQuiz.Grade
import PlainQuiz.Proofs.Text.LetterCase

set_option autoImplicit false

namespace PlainQuiz

inductive Response.Suits : Kind → Response → Prop
  | selection (ids : List Text) : Suits .multipleChoice (.selection ids)
  | text (value : Text) : Suits .freeText (.text value)
  | truth (value : Option Bool) : Suits .trueFalse (.truth value)
  | blanks (fillings : List Text) : Suits .fillBlank (.blanks fillings)
  | order (ids : List Text) : Suits .sort (.order ids)

namespace Grade

variable {α : Type} [BEq α] [LawfulBEq α]

theorem sameSequence_eq_true_iff {a b : List α} : sameSequence a b = true ↔ a = b := by
  induction a generalizing b with
  | nil => cases b <;> simp [sameSequence]
  | cons x a ih =>
    cases b with
    | nil => simp [sameSequence]
    | cons y b =>
      have step : sameSequence (x :: a) (y :: b) = (x == y && sameSequence a b) := by
        simp [sameSequence, Bool.and_left_comm]
      rw [step, Bool.and_eq_true, ih, beq_iff_eq, List.cons.injEq]

theorem mem_distinctFrom_iff {seen items : List α} {x : α} :
    x ∈ distinctFrom seen items ↔ x ∈ items ∧ x ∉ seen := by
  induction items generalizing seen with
  | nil => simp [distinctFrom]
  | cons y rest ih =>
    rw [distinctFrom]
    by_cases same : x = y
    · subst same
      by_cases known : x ∈ seen <;> simp [known, ih]
    · by_cases known : y ∈ seen <;> simp [known, ih, same]

theorem mem_distinct_iff {items : List α} {x : α} : x ∈ distinct items ↔ x ∈ items := by
  simp [distinct, mem_distinctFrom_iff]

theorem nodup_distinctFrom (seen items : List α) : (distinctFrom seen items).Nodup := by
  induction items generalizing seen with
  | nil => exact List.nodup_nil
  | cons x rest ih =>
    rw [distinctFrom]
    split_ifs
    · exact ih seen
    · refine List.nodup_cons.mpr ⟨fun again => ?_, ih (x :: seen)⟩
      exact (mem_distinctFrom_iff.mp again).2 List.mem_cons_self

theorem nodup_distinct (items : List α) : (distinct items).Nodup := nodup_distinctFrom [] items

theorem sameMembers_distinct_iff {a b : List α} :
    sameMembers (distinct a) (distinct b) = true ↔ ∀ x, x ∈ a ↔ x ∈ b := by
  simp only [sameMembers, Bool.and_eq_true, beq_iff_eq, List.all_eq_true, List.contains_iff_mem,
    mem_distinct_iff]
  constructor
  · rintro ⟨⟨_, into⟩, back⟩ x
    exact ⟨into x, back x⟩
  · intro same
    have rearranged : (distinct a).Perm (distinct b) :=
      (List.perm_ext_iff_of_nodup (nodup_distinct a) (nodup_distinct b)).mpr fun x => by
        simp only [mem_distinct_iff, same]
    exact ⟨⟨rearranged.length_eq, fun x => (same x).mp⟩, fun x => (same x).mpr⟩

end Grade

namespace Question

variable {question : Question} {response : Response}

def Accepts (question : Question) (response : Response) : Prop :=
  ∃ expected, question.grade response = .ok ⟨true, expected⟩

theorem grade_eq_error_iff {error : GradeError} :
    question.grade response = .error error ↔ question.isCorrect response = .error error := by
  unfold grade
  cases question.isCorrect response <;> simp [Except.map]

theorem accepts_iff : question.Accepts response ↔ question.isCorrect response = .ok true := by
  unfold Accepts grade
  cases question.isCorrect response <;> simp [Except.map]

theorem gradeSelection_eq_true_iff {ids : List Text} :
    question.gradeSelection ids = true ↔ ∀ id, id ∈ ids ↔ id ∈ question.answers :=
  Grade.sameMembers_distinct_iff

theorem gradeOrder_eq_true_iff {ids : List Text} :
    question.gradeOrder ids = true ↔ ids = question.answers :=
  Grade.sameSequence_eq_true_iff

inductive GradesBlanks (question : Question) (fillings : List Text) : Except GradeError Bool → Prop
  | gap (index : Nat) (within : index < question.blankCount)
      (empty : isFilled fillings index = false)
      (before : ∀ earlier < index, isFilled fillings earlier = true) :
      GradesBlanks question fillings (.error (.emptyBlank (index + 1)))
  | short (filled : ∀ index < question.blankCount, isFilled fillings index = true)
      (few : question.answers.length < question.blankCount) :
      GradesBlanks question fillings
        (.error (.tooFewAnswers question.answers.length question.blankCount))
  | compared (filled : ∀ index < question.blankCount, isFilled fillings index = true)
      (enough : question.blankCount ≤ question.answers.length) :
      GradesBlanks question fillings
        (.ok ((List.range question.blankCount).all (question.fits fillings)))

theorem gradesBlanks (question : Question) (fillings : List Text) :
    GradesBlanks question fillings (question.gradeBlanks fillings) := by
  unfold gradeBlanks
  dsimp only
  split
  next index first =>
    obtain ⟨empty, within, before⟩ := List.find?_range_eq_some.mp first
    exact .gap index (List.mem_range.mp within) (by simpa using empty) (by simpa using before)
  next none =>
    have filled : ∀ index < question.blankCount, isFilled fillings index = true := by
      simpa using List.find?_range_eq_none.mp none
    split
    next few => exact .short filled few
    next enough => exact .compared filled (Nat.le_of_not_lt enough)

theorem gradeBlanks_eq_ok_true_iff {fillings : List Text} :
    question.gradeBlanks fillings = .ok true ↔
      question.blankCount ≤ question.answers.length ∧
        ∀ index < question.blankCount,
          isFilled fillings index = true ∧ question.fits fillings index = true := by
  have graded := question.gradesBlanks fillings
  generalize question.gradeBlanks fillings = result at graded
  cases graded with
  | gap index within empty _ =>
    have unmet : ¬ ∀ index < question.blankCount,
        isFilled fillings index = true ∧ question.fits fillings index = true := by
      intro each
      simp [(each index within).1] at empty
    simp [unmet]
  | short _ few => simp [Nat.not_le.mpr few]
  | compared filled enough =>
    rw [Except.ok.injEq, List.all_eq_true]
    simp only [List.mem_range]
    exact ⟨fun fit => ⟨enough, fun index within => ⟨filled index within, fit index within⟩⟩,
      fun ⟨_, each⟩ index within => (each index within).2⟩

theorem isFilled_eq_true_iff {fillings : List Text} {index : Nat} :
    isFilled fillings index = true ↔
      ∃ filling, fillings[index]? = some filling ∧ Text.trim filling ≠ [] := by
  unfold isFilled
  cases fillings[index]? <;> simp

theorem fits_eq_true_iff {fillings : List Text} {index : Nat} :
    question.fits fillings index = true ↔
      ∃ filling answer, fillings[index]? = some filling ∧ question.answers[index]? = some answer ∧
        Text.lower filling = Text.lower answer := by
  unfold fits
  cases fillings[index]? <;> cases question.answers[index]? <;> simp [Text.sameIgnoringCase]

structure Alike (filling other : Text) : Prop where
  lower : Text.lower filling = Text.lower other
  blank : Text.trim filling = [] ↔ Text.trim other = []

theorem Alike.symm {filling other : Text} (alike : Alike filling other) : Alike other filling :=
  ⟨alike.lower.symm, alike.blank.symm⟩

theorem Alike.of_lower {filling other : Text} (solid : Text.trim filling = filling)
    (also : Text.trim other = other) (same : Text.lower filling = Text.lower other) :
    Alike filling other := by
  refine ⟨same, ?_⟩
  rw [solid, also, ← Text.lower_eq_nil_iff, same, Text.lower_eq_nil_iff]

theorem exists_getElem?_of_alike {fillings others : List Text} {index : Nat} {filling : Text}
    (alike : List.Forall₂ Alike fillings others) (here : fillings[index]? = some filling) :
    ∃ other, others[index]? = some other ∧ Alike filling other := by
  obtain ⟨within, rfl⟩ := List.getElem?_eq_some_iff.mp here
  have also : index < others.length := alike.length_eq ▸ within
  exact ⟨others[index], List.getElem?_eq_getElem also, alike.get within also⟩

theorem isFilled_of_alike {fillings others : List Text} {index : Nat}
    (alike : List.Forall₂ Alike fillings others) (filled : isFilled fillings index = true) :
    isFilled others index = true := by
  obtain ⟨filling, here, solid⟩ := isFilled_eq_true_iff.mp filled
  obtain ⟨other, there, same⟩ := exists_getElem?_of_alike alike here
  exact isFilled_eq_true_iff.mpr ⟨other, there, fun blank => solid (same.blank.mpr blank)⟩

theorem fits_of_alike {fillings others : List Text} {index : Nat}
    (alike : List.Forall₂ Alike fillings others) (fit : question.fits fillings index = true) :
    question.fits others index = true := by
  obtain ⟨filling, answer, here, wanted, right⟩ := fits_eq_true_iff.mp fit
  obtain ⟨other, there, same⟩ := exists_getElem?_of_alike alike here
  exact fits_eq_true_iff.mpr ⟨other, answer, there, wanted, same.lower.symm.trans right⟩

theorem gradeBlanks_congr (question : Question) {fillings others : List Text}
    (alike : List.Forall₂ Alike fillings others) :
    question.gradeBlanks fillings = question.gradeBlanks others := by
  -- Fillings are read only to see whether they are there and whether they fit.
  have back : List.Forall₂ Alike others fillings := (alike.imp fun _ _ => Alike.symm).flip
  have filled : isFilled fillings = isFilled others := by
    funext index
    exact Bool.eq_iff_iff.mpr ⟨isFilled_of_alike alike, isFilled_of_alike back⟩
  have fit : question.fits fillings = question.fits others := by
    funext index
    exact Bool.eq_iff_iff.mpr ⟨fits_of_alike alike, fits_of_alike back⟩
  unfold gradeBlanks
  rw [filled, fit]

def IsShort (question : Question) : Prop := question.answers.length < question.blankCount

instance (question : Question) : Decidable question.IsShort :=
  inferInstanceAs (Decidable (_ < _))

theorem kind_of_isShort (short : question.IsShort) : question.kind = .fillBlank := by
  unfold IsShort blankCount at short
  cases kind : question.kind with
  | fillBlank => rfl
  | multipleChoice | freeText | trueFalse | sort => simp [kind] at short

theorem error_of_suits {error : GradeError} (suits : response.Suits question.kind)
    (failed : question.isCorrect response = .error error) :
    error.isIncomplete = true ∨
      question.IsShort ∧ error = .tooFewAnswers question.answers.length question.blankCount := by
  obtain ⟨kind, prompt, options, answers, rawAnswer⟩ := question
  cases suits with
  | selection ids => simp [isCorrect] at failed
  | text value => simp [isCorrect] at failed
  | truth value =>
    cases value with
    | none =>
      obtain rfl := Except.error.inj failed
      exact .inl rfl
    | some value => simp [isCorrect, gradeTruth] at failed
  | blanks fillings =>
    have graded := gradesBlanks ⟨.fillBlank, prompt, options, answers, rawAnswer⟩ fillings
    have same : gradeBlanks ⟨.fillBlank, prompt, options, answers, rawAnswer⟩ fillings =
        .error error := failed
    rw [same] at graded
    cases graded with
    | gap => exact .inl rfl
    | short _ few => exact .inr ⟨few, rfl⟩
  | order ids => simp [isCorrect] at failed

end Question

end PlainQuiz
