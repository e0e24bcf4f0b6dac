import PlainQuiz.Proofs.Block.Reading

set_option autoImplicit false

namespace PlainQuiz.Block

namespace Draft

variable {draft : Draft} {question : Question}

theorem settlePrompt_eq_self (prompted : draft.prompt ≠ [])
    (notOne : draft.kind = .trueFalse ∨ draft.kind = .freeText → draft.options.length ≠ 1) :
    draft.settlePrompt = draft := by
  obtain ⟨kind, prompt, options, answers, rawAnswer⟩ := draft
  unfold settlePrompt
  split
  next => exact if_neg prompted
  next truth only => exact absurd (by rw [only]; rfl) (notOne (.inl truth))
  next free only => exact absurd (by rw [only]; rfl) (notOne (.inr free))
  next => rfl

theorem settlePrompt_keeps (draft : Draft) :
    draft.settlePrompt.kind = draft.kind ∧ draft.settlePrompt.answers = draft.answers ∧
      draft.settlePrompt.rawAnswer = draft.rawAnswer := by
  unfold settlePrompt
  split
  next =>
    split_ifs
    · exact ⟨rfl, rfl, rfl⟩
    · exact ⟨rfl, rfl, rfl⟩
  all_goals exact ⟨rfl, rfl, rfl⟩

theorem finish_eq_ok_iff :
    draft.finish = .ok question ↔
      question = ⟨draft.kind, draft.settlePrompt.prompt, draft.settlePrompt.options, draft.answers,
        draft.rawAnswer⟩ ∧
      question.prompt ≠ [] ∧ question.answers ≠ [] ∧
      (question.kind.requiresOptions = true → question.options ≠ []) := by
  obtain ⟨kind, answers, raw⟩ := settlePrompt_keeps draft
  unfold finish
  dsimp only
  rw [kind, answers, raw]
  constructor
  · intro finished
    split_ifs at finished with unprompted unanswered unoptioned
    obtain rfl := Except.ok.inj finished
    exact ⟨rfl, unprompted, unanswered, fun required missing => unoptioned ⟨required, missing⟩⟩
  · rintro ⟨rfl, prompted, answered, optioned⟩
    exact (if_neg prompted).trans
      ((if_neg answered).trans (if_neg fun missing => optioned missing.1 missing.2))

end Draft

theorem trim_of_lastAnswer? {source : Text} {above : List Text} {text : Text}
    (last : Reading.lastAnswer? (contentLines source) = some (above, text)) :
    Text.trim text = text ∧ text ≠ [] ∧ '\n' ∉ text := by
  obtain ⟨⟨earlier, line⟩, place, given⟩ := List.exists_of_findSome?_eq_some last
  have member := Reading.mem_of_mem_placesFrom (List.mem_reverse.mp place)
  have whole := newline_not_mem_contentLines member
  obtain ⟨found, answers, same⟩ := Option.map_eq_some_iff.mp given
  obtain ⟨rfl, rfl⟩ := Prod.mk.inj same
  unfold Reading.answer? at answers
  split_ifs at answers with directive marked owned
  · obtain rfl := Option.some.inj answers
    refine ⟨Text.trim_trim _, by simpa using (Bool.and_eq_true_iff.mp marked).2, fun inside => ?_⟩
    exact whole (List.mem_of_mem_drop (Text.mem_of_mem_trim inside))
  · obtain rfl := Option.some.inj answers
    exact ⟨trim_of_mem_contentLines member, ne_nil_of_mem_contentLines member, whole⟩

section Parsed

variable {source : Text} {question : Question} (parsed : Question.ofBlock source = .ok question)

include parsed

theorem finish_of_ofBlock : (Reading.draft (contentLines source)).finish = .ok question := by
  rw [Question.ofBlock, Reading.draft_eq] at parsed
  split_ifs at parsed
  exact parsed

theorem kind_of_ofBlock : question.kind = Reading.kind (contentLines source) := by
  obtain ⟨rfl, _⟩ := Draft.finish_eq_ok_iff.mp (finish_of_ofBlock parsed)
  rfl

theorem answered_of_ofBlock :
    ∃ above text, Reading.lastAnswer? (contentLines source) = some (above, text) ∧
      question.answers = Answer.interpret (Reading.kind above) (Reading.prompt above) text ∧
      question.rawAnswer = text := by
  obtain ⟨rfl, _, answered, _⟩ := Draft.finish_eq_ok_iff.mp (finish_of_ofBlock parsed)
  simp only [Reading.draft, Reading.answers, Reading.rawAnswer] at answered ⊢
  cases last : Reading.lastAnswer? (contentLines source) with
  | none => simp [last] at answered
  | some place => exact ⟨place.1, place.2, rfl, rfl, rfl⟩

end Parsed

end PlainQuiz.Block

namespace PlainQuiz

theorem Answer.trim_of_mem_interpret {kind : Kind} {prompt text : Text}
    (trimmed : Text.trim text = text) {answer : Text}
    (member : answer ∈ interpret kind prompt text) : Text.trim answer = answer := by
  cases kind with
  | trueFalse =>
    obtain rfl := List.mem_singleton.mp member
    cases truth text <;> decide
  | fillBlank =>
    rw [interpret] at member
    split_ifs at member
    · obtain rfl := List.mem_singleton.mp member
      exact trimmed
    · exact Text.trim_of_mem_splitCommas member
  | multipleChoice | freeText | sort => exact Text.trim_of_mem_splitCommas member

theorem Question.answers_ne_nil {source : Text} {question : Question}
    (parsed : Question.ofBlock source = .ok question) : question.answers ≠ [] := by
  obtain ⟨_, _, answered, _⟩ :=
    Block.Draft.finish_eq_ok_iff.mp (Block.finish_of_ofBlock parsed)
  exact answered

theorem Question.trim_of_mem_answers {source : Text} {question : Question}
    (parsed : Question.ofBlock source = .ok question) {answer : Text}
    (member : answer ∈ question.answers) : Text.trim answer = answer := by
  obtain ⟨above, text, last, interpreted, _⟩ := Block.answered_of_ofBlock parsed
  rw [interpreted] at member
  exact Answer.trim_of_mem_interpret (Block.trim_of_lastAnswer? last).1 member

end PlainQuiz
