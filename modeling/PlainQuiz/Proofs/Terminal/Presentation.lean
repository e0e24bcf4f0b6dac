import PlainQuiz.Proofs.Terminal.Reply
import PlainQuiz.Terminal.Presentation

set_option autoImplicit false

namespace PlainQuiz

namespace Question

section Blanks

variable {question : Question} {chips : List Text} {fillings : List Filling}

theorem askBlanks_of_filled (filled : question.blankCount ≤ fillings.length) (input : Input) :
    question.askBlanks chips fillings input = ⟨[], .done fillings, input⟩ := by
  rw [askBlanks, if_pos filled]

variable (unfilled : ¬ question.blankCount ≤ fillings.length)

include unfilled

theorem askBlanks_nil :
    question.askBlanks chips fillings [] =
      ⟨[.request (blankHint (fillings.length + 1))], .exhausted, []⟩ := by
  rw [askBlanks, if_neg unfilled]

theorem askBlanks_unreadable (rest : Input) :
    question.askBlanks chips fillings (none :: rest) =
      ⟨[.request (blankHint (fillings.length + 1))], .unreadable, rest⟩ := by
  rw [askBlanks, if_neg unfilled]

variable {line : Text} {index : Nat}

theorem askBlanks_of_free
    (found : Chips.find chips (Filling.taken fillings) (Text.trim line) = some index)
    (free : index ∉ Filling.taken fillings) (rest : Input) :
    question.askBlanks chips fillings (some line :: rest) =
      (question.askBlanks chips (fillings ++ [.chip index]) rest).after
        [.request (blankHint (fillings.length + 1))] := by
  rw [askBlanks, if_neg unfilled]
  simp only [found, List.contains_iff_mem, free, if_false]

theorem askBlanks_of_taken
    (found : Chips.find chips (Filling.taken fillings) (Text.trim line) = some index)
    (taken : index ∈ Filling.taken fillings) (rest : Input) :
    question.askBlanks chips fillings (some line :: rest) =
      (question.askBlanks chips fillings rest).after
        [.request (blankHint (fillings.length + 1)), .line (takenMessage index)] := by
  rw [askBlanks, if_neg unfilled]
  simp only [found, List.contains_iff_mem, taken, if_true]

theorem askBlanks_of_typed
    (unknown : Chips.find chips (Filling.taken fillings) (Text.trim line) = none)
    (rest : Input) :
    question.askBlanks chips fillings (some line :: rest) =
      (question.askBlanks chips (fillings ++ [.typed (Text.trim line)]) rest).after
        [.request (blankHint (fillings.length + 1))] := by
  rw [askBlanks, if_neg unfilled]
  simp only [unknown]

end Blanks

end Question

structure Turn.Spends {α : Type} (turn : Turn α) (input : Input) : Prop where
  suffix : turn.rest <:+ input
  exhausted : turn.ending = .exhausted → turn.rest = []
  unreadable : turn.ending = .unreadable → none ∈ input

namespace Turn.Spends

variable {α β : Type} {turn : Turn α} {input : Input} (spends : turn.Spends input)

include spends

theorem after (said : Transcript) : (turn.after said).Spends input :=
  ⟨spends.suffix, spends.exhausted, spends.unreadable⟩

theorem map (f : α → β) : (turn.map f).Spends input := by
  refine ⟨spends.suffix, fun ended => spends.exhausted ?_, fun ended => spends.unreadable ?_⟩
  · cases ending : turn.ending <;> simp_all [Turn.map, Ending.map]
  · cases ending : turn.ending <;> simp_all [Turn.map, Ending.map]

theorem trans {earlier : Input} (suffix : input <:+ earlier) : turn.Spends earlier :=
  ⟨spends.suffix.trans suffix, spends.exhausted,
    fun ended => suffix.subset (spends.unreadable ended)⟩

end Turn.Spends

namespace Question

theorem askBlanks_spends (question : Question) (chips : List Text) (fillings : List Filling)
    (input : Input) : (question.askBlanks chips fillings input).Spends input := by
  fun_induction askBlanks question chips fillings input
  next => exact ⟨List.suffix_rfl, by simp, by simp⟩
  next => exact ⟨List.suffix_rfl, fun _ => rfl, by simp⟩
  next => exact ⟨List.suffix_cons _ _, by simp, by simp⟩
  next ih => exact (ih.after _).trans (List.suffix_cons _ _)
  next ih => exact (ih.after _).trans (List.suffix_cons _ _)
  next ih => exact (ih.after _).trans (List.suffix_cons _ _)

theorem askReply_spends (question : Question) (labels : Labels) (input : Input) :
    (question.askReply labels input).Spends input := by
  fun_induction askReply question labels input
  next => exact ⟨List.suffix_rfl, fun _ => rfl, by simp⟩
  next => exact ⟨List.suffix_cons _ _, by simp, by simp⟩
  next => exact ⟨List.suffix_cons _ _, by simp, by simp⟩
  next ih => exact (ih.after _).trans (List.suffix_cons _ _)

theorem attempt_spends (question : Question) (labels : Labels) (chips : List Text)
    (input : Input) : (question.attempt labels chips input).Spends input := by
  unfold attempt
  split
  next => exact (question.askBlanks_spends chips [] input).map _
  next => exact question.askReply_spends labels input

variable {question : Question} {labels : Labels} {chips : List Text} {input : Input}

theorem exists_line_of_askReply {response : Response}
    (done : (question.askReply labels input).ending = .done response) :
    ∃ line, question.response labels line = .ok response := by
  induction input with
  | nil => simp [askReply] at done
  | cons line rest ih =>
    cases line with
    | none => simp [askReply] at done
    | some line =>
      rw [askReply] at done
      cases read : question.response labels (Text.trim line) with
      | error error =>
        simp only [read, Turn.ending_after] at done
        exact ih done
      | ok given =>
        simp only [read, Ending.done.injEq] at done
        exact ⟨Text.trim line, done ▸ read⟩

theorem attempt_suits {response : Response}
    (done : (question.attempt labels chips input).ending = .done response) :
    response.Suits question.kind := by
  unfold attempt at done
  split at done
  next fill =>
    obtain ⟨fillings, _, rfl⟩ := Turn.done_of_map done
    rw [fill]
    exact .blanks _
  next =>
    obtain ⟨line, read⟩ := exists_line_of_askReply done
    exact response_suits read

theorem takeReplies_eq (question : Question) (labels : Labels) (chips : List Text)
    (input : Input) :
    question.takeReplies labels chips input =
      let attempt := question.attempt labels chips input
      match attempt.ending with
      | .exhausted => ⟨attempt.said, .exhausted, attempt.rest⟩
      | .unreadable => ⟨attempt.said, .unreadable, attempt.rest⟩
      | .done response =>
        let verdict := labels.verdict question (question.grade response)
        match verdict.1 with
        | some outcome =>
          ⟨attempt.said ++ [.line verdict.2, .line []], .done outcome, attempt.rest⟩
        | none =>
          (question.takeReplies labels chips attempt.rest).after
            (attempt.said ++ [.line verdict.2]) := by
  rw [takeReplies]
  dsimp only
  split
  next ended => rw [ended]
  next ended => rw [ended]
  next response ended =>
    rcases graded : labels.verdict question (question.grade response) with ⟨outcome, message⟩
    cases outcome <;> simp only [ended, graded]

section Attempt

theorem takeReplies_of_exhausted
    (ended : (question.attempt labels chips input).ending = .exhausted) :
    question.takeReplies labels chips input =
      ⟨(question.attempt labels chips input).said, .exhausted,
        (question.attempt labels chips input).rest⟩ := by
  rw [takeReplies_eq]
  simp only [ended]

theorem takeReplies_of_unreadable
    (ended : (question.attempt labels chips input).ending = .unreadable) :
    question.takeReplies labels chips input =
      ⟨(question.attempt labels chips input).said, .unreadable,
        (question.attempt labels chips input).rest⟩ := by
  rw [takeReplies_eq]
  simp only [ended]

variable {response : Response}
  (ended : (question.attempt labels chips input).ending = .done response)

include ended

theorem takeReplies_of_settled {outcome : Outcome} {message : Text}
    (settled : labels.verdict question (question.grade response) = (some outcome, message)) :
    question.takeReplies labels chips input =
      ⟨(question.attempt labels chips input).said ++ [.line message, .line []], .done outcome,
        (question.attempt labels chips input).rest⟩ := by
  rw [takeReplies_eq]
  simp only [ended, settled]

theorem takeReplies_of_incomplete {message : Text}
    (incomplete : labels.verdict question (question.grade response) = (none, message)) :
    question.takeReplies labels chips input =
      (question.takeReplies labels chips (question.attempt labels chips input).rest).after
        ((question.attempt labels chips input).said ++ [.line message]) := by
  rw [takeReplies_eq]
  simp only [ended, incomplete]

end Attempt

-- A completed attempt has read a line, so what it leaves is shorter.
theorem attempts_induction (question : Question) (labels : Labels) (chips : List Text)
    {holds : Input → Prop}
    (step : ∀ input, (∀ response, (question.attempt labels chips input).ending = .done response →
      holds (question.attempt labels chips input).rest) → holds input)
    (input : Input) : holds input := by
  induction length : input.length using Nat.strong_induction_on generalizing input with
  | h count ih =>
    exact step input fun response ended => ih _ (length ▸ attempt_rest_lt ended) _ rfl

theorem takeReplies_spends (question : Question) (labels : Labels) (chips : List Text)
    (input : Input) : (question.takeReplies labels chips input).Spends input := by
  induction input using question.attempts_induction labels chips with
  | step input ih =>
    have attempted := question.attempt_spends labels chips input
    cases ended : (question.attempt labels chips input).ending with
    | exhausted =>
      rw [takeReplies_of_exhausted ended]
      exact ⟨attempted.suffix, fun _ => attempted.exhausted ended, by simp⟩
    | unreadable =>
      rw [takeReplies_of_unreadable ended]
      exact ⟨attempted.suffix, by simp, fun _ => attempted.unreadable ended⟩
    | done response =>
      rcases graded : labels.verdict question (question.grade response) with ⟨_ | outcome, message⟩
      · rw [takeReplies_of_incomplete ended graded]
        exact ((ih response ended).after _).trans attempted.suffix
      · rw [takeReplies_of_settled ended graded]
        exact ⟨attempted.suffix, by simp, by simp⟩

theorem present_spends (question : Question) (labels : Labels) (number total : Nat)
    (chips : List Text) (input : Input) :
    (question.present labels number total chips input).Spends input :=
  (question.takeReplies_spends labels chips input).after _

theorem present_nil (question : Question) (labels : Labels) (number total : Nat)
    (chips : List Text) : (question.present labels number total chips []).ending = .exhausted := by
  have attempted : (question.attempt labels chips []).ending = .exhausted := by
    unfold attempt
    split
    next fill =>
      have unfilled : ¬ question.blankCount ≤ ([] : List Filling).length :=
        Nat.not_le.mpr (blankCount_pos fill)
      rw [askBlanks_nil unfilled]
      rfl
    next => rw [askReply]
  rw [present, Turn.ending_after, takeReplies_of_exhausted attempted]

end Question

end PlainQuiz
