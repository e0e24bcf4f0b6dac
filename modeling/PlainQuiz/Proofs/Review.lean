import PlainQuiz.Proofs.Terminal.Reply
import PlainQuiz.Review

set_option autoImplicit false

namespace PlainQuiz

namespace Review

variable {warning : Warning}

def Fresh (seen items : List Text) : Prop := items.Nodup ∧ ∀ item ∈ items, item ∉ seen

theorem fresh_nil_iff {items : List Text} : Fresh [] items ↔ items.Nodup := by
  simp [Fresh]

theorem fresh_cons_iff {seen rest : List Text} {item : Text} :
    Fresh seen (item :: rest) ↔ item ∉ seen ∧ Fresh (item :: seen) rest := by
  rw [Fresh, List.nodup_cons, List.forall_mem_cons, Fresh]
  simp only [List.mem_cons, not_or]
  constructor
  · rintro ⟨⟨here, later⟩, unseen, unseenLater⟩
    exact ⟨unseen, later, fun other member =>
      ⟨fun same => here (same ▸ member), unseenLater other member⟩⟩
  · rintro ⟨unseen, later, apart⟩
    exact ⟨⟨fun member => (apart item member).1 rfl, later⟩, unseen,
      fun other member => (apart other member).2⟩

theorem repeatedOptions_eq_nil_iff {seen ids : List Text} :
    repeatedOptions seen ids = [] ↔ Fresh seen ids := by
  induction ids generalizing seen with
  | nil => simp [repeatedOptions, Fresh]
  | cons id rest ih =>
    rw [fresh_cons_iff, ← ih, repeatedOptions]
    by_cases known : id ∈ seen <;> simp [known]

theorem emptyAnswers_eq_nil_iff {answers : List Text} :
    emptyAnswers answers = [] ↔ [] ∉ answers := by
  unfold emptyAnswers
  split_ifs with among <;> simpa using among

theorem eq_of_mem_repeatedOptions {seen ids : List Text}
    (member : warning ∈ repeatedOptions seen ids) : ∃ id, warning = .repeatedOption id := by
  induction ids generalizing seen with
  | nil => simp [repeatedOptions] at member
  | cons id rest ih =>
    rw [repeatedOptions] at member
    split at member
    next =>
      rcases List.mem_cons.mp member with rfl | later
      · exact ⟨id, rfl⟩
      · exact ih later
    next => exact ih member

theorem eq_of_mem_sortAnswers {ids listed answers : List Text}
    (member : warning ∈ sortAnswers ids listed answers) :
    ∃ answer, warning = .unknownSortAnswer answer ∨ warning = .repeatedSortAnswer answer := by
  induction answers generalizing listed with
  | nil => simp [sortAnswers] at member
  | cons answer rest ih =>
    rw [sortAnswers, List.mem_append, List.mem_append] at member
    rcases member with (unknown | repeated) | later
    · split at unknown
      next => simp at unknown
      next => exact ⟨answer, .inl (by simpa using unknown)⟩
    · split at repeated
      next => exact ⟨answer, .inr (by simpa using repeated)⟩
      next => simp at repeated
    · exact ih later

theorem eq_of_mem_omittedOptions {ids answers : List Text}
    (member : warning ∈ omittedOptions ids answers) :
    ∃ missing, warning = .omittedOptions missing := by
  unfold omittedOptions at member
  split at member
  next => simp at member
  next => exact ⟨_, List.mem_singleton.mp member⟩

section TooFewAnswers

variable {question : Question} {answers blanks : Nat}

theorem tooFewAnswers_not_mem_ignoredOptions :
    Warning.tooFewAnswers answers blanks ∉ ignoredOptions question := by
  unfold ignoredOptions
  split_ifs <;> simp

theorem tooFewAnswers_not_mem_sort (ids listed given : List Text) :
    Warning.tooFewAnswers answers blanks ∉
      sortAnswers ids listed given ++ omittedOptions ids given := by
  rw [List.mem_append]
  rintro (placed | omitted)
  · obtain ⟨answer, same | same⟩ := eq_of_mem_sortAnswers placed <;> cases same
  · obtain ⟨missing, same⟩ := eq_of_mem_omittedOptions omitted
    cases same

theorem tooFewAnswers_mem_blanks_iff :
    Warning.tooFewAnswers answers blanks ∈ Review.blanks question ↔
      question.IsShort ∧ answers = question.answers.length ∧ blanks = question.blankCount := by
  unfold Review.blanks Question.IsShort
  by_cases short : question.answers.length < question.blankCount
  · split_ifs <;> simp [short]
  · split_ifs <;> simp [short]

theorem tooFewAnswers_mem_forKind_iff :
    Warning.tooFewAnswers answers blanks ∈ forKind question ↔
      question.IsShort ∧ answers = question.answers.length ∧ blanks = question.blankCount := by
  unfold forKind
  by_cases fill : question.kind = .fillBlank
  · rw [fill]
    simp only [List.mem_append, tooFewAnswers_mem_blanks_iff, tooFewAnswers_not_mem_ignoredOptions,
      or_false]
  · have gradable : ¬ question.IsShort := fun short => fill (Question.kind_of_isShort short)
    simp only [gradable, false_and, iff_false]
    cases kind : question.kind with
    | fillBlank => exact absurd kind fill
    | multipleChoice => simp [unknownAnswers]
    | sort => exact tooFewAnswers_not_mem_sort _ _ _
    | trueFalse =>
      rw [List.mem_append, not_or]
      refine ⟨?_, tooFewAnswers_not_mem_ignoredOptions⟩
      split_ifs <;> simp
    | freeText => exact tooFewAnswers_not_mem_ignoredOptions

end TooFewAnswers

end Review

namespace Question

theorem tooFewAnswers_mem_warnings_iff {question : Question} {answers blanks : Nat} :
    Warning.tooFewAnswers answers blanks ∈ question.warnings ↔
      question.IsShort ∧ answers = question.answers.length ∧ blanks = question.blankCount := by
  have unrepeated : Warning.tooFewAnswers answers blanks ∉
      Review.repeatedOptions [] question.optionIds := by
    intro member
    obtain ⟨id, same⟩ := Review.eq_of_mem_repeatedOptions member
    cases same
  have filled : Warning.tooFewAnswers answers blanks ∉ Review.emptyAnswers question.answers := by
    unfold Review.emptyAnswers
    split_ifs <;> simp
  simp only [warnings, List.mem_append, unrepeated, filled, false_or,
    Review.tooFewAnswers_mem_forKind_iff]

variable {question : Question}

theorem warnings_eq_nil_iff :
    question.warnings = [] ↔
      question.optionIds.Nodup ∧ [] ∉ question.answers ∧ Review.forKind question = [] := by
  rw [warnings, List.append_eq_nil_iff, List.append_eq_nil_iff, Review.repeatedOptions_eq_nil_iff,
    Review.fresh_nil_iff, Review.emptyAnswers_eq_nil_iff, and_assoc]

theorem exists_tooFewAnswers_iff :
    (∃ answers blanks, Warning.tooFewAnswers answers blanks ∈ question.warnings) ↔
      question.IsShort := by
  simp [tooFewAnswers_mem_warnings_iff]

theorem not_isShort_of_warnings (quiet : question.warnings = []) : ¬ question.IsShort := by
  rw [← exists_tooFewAnswers_iff, quiet]
  simp

def IsUngradable (question : Question) (labels : Labels) : Prop :=
  ∃ line response, '\n' ∉ line ∧ question.response labels line = .ok response ∧
    (labels.verdict question (question.grade response)).1 = some .misconfigured

def wordLine (count : Nat) : Text := Text.join [Reply.blankSeparator] (List.replicate count ['x'])

theorem mem_wordLine {count : Nat} {c : Char} (member : c ∈ wordLine count) :
    c = '|' ∨ c = 'x' := by
  rcases Text.mem_of_mem_join member with separator | ⟨word, among, inside⟩
  · exact .inl (List.mem_singleton.mp separator)
  · rw [List.eq_of_mem_replicate among] at inside
    exact .inr (List.mem_singleton.mp inside)

theorem fillings_wordLine {count : Nat} (positive : 0 < count) :
    Reply.fillings (Text.trim (wordLine count)) = List.replicate count ['x'] := by
  apply Reply.fillings_join
  · simpa using Nat.ne_of_gt positive
  · intro word among
    rw [List.eq_of_mem_replicate among]
    exact ⟨by decide, by decide⟩

theorem gradeBlanks_words (short : question.IsShort) :
    question.gradeBlanks (List.replicate question.blankCount ['x']) =
      .error (.tooFewAnswers question.answers.length question.blankCount) := by
  have graded := question.gradesBlanks (List.replicate question.blankCount ['x'])
  generalize question.gradeBlanks (List.replicate question.blankCount ['x']) = result at graded
  cases graded with
  | gap index within empty =>
    have filled : isFilled (List.replicate question.blankCount ['x']) index = true :=
      isFilled_eq_true_iff.mpr ⟨['x'], by simp [within], by decide⟩
    simp [filled] at empty
  | short => rfl
  | compared _ enough => exact absurd short (Nat.not_lt.mpr enough)

theorem isUngradable_iff {labels : Labels} : question.IsUngradable labels ↔ question.IsShort := by
  constructor
  · rintro ⟨line, response, _, read, outcome⟩
    exact isShort_of_misconfigured (response_suits read) outcome
  · intro short
    have fill := kind_of_isShort short
    -- With a word in every blank nothing is incomplete, and the short list of answers is noticed.
    have words := fillings_wordLine (blankCount_pos fill)
    refine ⟨wordLine question.blankCount, .blanks (List.replicate question.blankCount ['x']),
      fun newline => ?_, ?_, ?_⟩
    · rcases mem_wordLine newline with same | same <;> exact absurd same (by decide)
    · simp only [response, fill, words]
    · refine verdict_eq_misconfigured_iff.mpr
        ⟨.tooFewAnswers question.answers.length question.blankCount, ?_, rfl⟩
      simp only [isCorrect, fill]
      exact gradeBlanks_words short

end Question

end PlainQuiz
