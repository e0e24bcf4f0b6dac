import PlainQuiz.Proofs.Terminal.Presentation
import PlainQuiz.Terminal.Session

set_option autoImplicit false

namespace PlainQuiz

namespace Question

variable {question : Question} {labels : Labels} {chips : List Text} {input : Input}
  {outcome : Outcome}

theorem exists_attempt_of_takeReplies
    (done : (question.takeReplies labels chips input).ending = .done outcome) :
    ∃ last response, last <:+ input ∧
      (question.attempt labels chips last).ending = .done response ∧
      (labels.verdict question (question.grade response)).1 = some outcome := by
  induction input using question.attempts_induction labels chips with
  | step input ih =>
    cases ended : (question.attempt labels chips input).ending with
    | exhausted => simp [takeReplies_of_exhausted ended] at done
    | unreadable => simp [takeReplies_of_unreadable ended] at done
    | done response =>
      rcases graded : labels.verdict question (question.grade response) with ⟨_ | result, message⟩
      · rw [takeReplies_of_incomplete ended graded, Turn.ending_after] at done
        obtain ⟨last, final, suffix, rest⟩ := ih response ended done
        exact ⟨last, final, suffix.trans (question.attempt_spends labels chips input).suffix, rest⟩
      · rw [takeReplies_of_settled ended graded] at done
        obtain rfl := Ending.done.inj done
        exact ⟨input, response, List.suffix_rfl, ended, congrArg Prod.fst graded⟩

theorem isShort_of_present {number total : Nat}
    (done : (question.present labels number total chips input).ending = .done .misconfigured) :
    question.IsShort := by
  obtain ⟨last, response, _, ended, graded⟩ := exists_attempt_of_takeReplies done
  exact isShort_of_misconfigured (attempt_suits ended) graded

end Question

namespace Session

variable {Generator : Type} (session : Session Generator) (settings : Settings)
  (number total : Nat)

theorem misconfigured_recordEnding (card : Scorecard) (ending : Ending Outcome) :
    (recordEnding card ending).misconfigured =
      card.misconfigured + if ending = .done .misconfigured then 1 else 0 := by
  cases ending with
  | done outcome => cases outcome <;> simp [recordEnding, Scorecard.record]
  | exhausted => simp [recordEnding, Scorecard.record]
  | unreadable => simp [recordEnding]

theorem foldl_unasked (card : Scorecard) (questions : List Question) :
    questions.foldl (fun card _ => card.record none) card =
      { card with unanswered := card.unanswered + questions.length } := by
  induction questions generalizing card with
  | nil => rfl
  | cons question rest ih =>
    rw [List.foldl_cons, ih, Scorecard.record, List.length_cons, Nat.add_assoc, Nat.add_comm 1]

theorem misconfigured_ask_le (question : Question) :
    (session.ask settings number total question).1.card.misconfigured ≤
      session.card.misconfigured + if question.IsShort then 1 else 0 := by
  simp only [ask, misconfigured_recordEnding]
  split
  next misconfigured => rw [if_pos (Question.isShort_of_present misconfigured)]
  next => omega

theorem misconfigured_quiz_le (questions : List Question) :
    (session.quiz settings number total questions).card.misconfigured ≤
      session.card.misconfigured + questions.countP (·.IsShort) := by
  induction questions generalizing session number with
  | nil => simp [quiz]
  | cons question rest ih =>
    have asked := session.misconfigured_ask_le settings number total question
    rw [List.countP_cons]
    simp only [decide_eq_true_eq]
    rw [quiz]
    split
    next next turn ran =>
      rw [ran] at asked
      dsimp only at asked ⊢
      cases turn.ending with
      | done outcome =>
        have later := ih next (number + 1)
        simp only [Report.after]
        omega
      -- The questions that are left count as unanswered, short or not.
      | exhausted =>
        simp only [foldl_unasked]
        omega
      | unreadable =>
        dsimp only
        omega

end Session

end PlainQuiz
