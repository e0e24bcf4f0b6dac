import PlainQuiz.Proofs.Terminal.Requests

set_option autoImplicit false

namespace PlainQuiz

namespace Question

variable {question : Question} {labels : Labels} {chips : List Text} {input : Input}

def takeRepliesWithin (question : Question) (labels : Labels) (chips : List Text) :
    Nat → Input → Option (Turn Outcome)
  | 0, _ => none
  | rounds + 1, input =>
    let attempt := question.attempt labels chips input
    match attempt.ending with
    | .exhausted => some ⟨attempt.said, .exhausted, attempt.rest⟩
    | .unreadable => some ⟨attempt.said, .unreadable, attempt.rest⟩
    | .done response =>
      let verdict := labels.verdict question (question.grade response)
      match verdict.1 with
      | some outcome =>
        some ⟨attempt.said ++ [.line verdict.2, .line []], .done outcome, attempt.rest⟩
      | none =>
        (question.takeRepliesWithin labels chips rounds attempt.rest).map
          (·.after (attempt.said ++ [.line verdict.2]))

theorem takeRepliesWithin_eq {rounds : Nat} (enough : input.length < rounds) :
    question.takeRepliesWithin labels chips rounds input =
      some (question.takeReplies labels chips input) := by
  induction rounds generalizing input with
  | zero => contradiction
  | succ rounds ih =>
    rw [takeRepliesWithin]
    cases ended : (question.attempt labels chips input).ending with
    | exhausted => simp only [takeReplies_of_exhausted ended]
    | unreadable => simp only [takeReplies_of_unreadable ended]
    | done response =>
      have shorter := attempt_rest_lt ended
      rcases graded : labels.verdict question (question.grade response) with ⟨_ | outcome, message⟩
      · simp only [graded, takeReplies_of_incomplete ended graded]
        rw [ih (by omega), Option.map_some]
      · simp only [graded, takeReplies_of_settled ended graded]

theorem askBlanks_local {fillings filled : List Filling}
    (done : (question.askBlanks chips fillings input).ending = .done filled) :
    ∃ consumed, input = consumed ++ (question.askBlanks chips fillings input).rest ∧
      ∀ rest, question.askBlanks chips fillings (consumed ++ rest) =
        ⟨(question.askBlanks chips fillings input).said, .done filled, rest⟩ := by
  fun_induction askBlanks question chips fillings input with
  | case1 fillings input full =>
    obtain rfl := Ending.done.inj done
    exact ⟨[], rfl, askBlanks_of_filled full⟩
  | case2 | case3 => contradiction
  | case4 fillings full request line rest typed unknown ih =>
    obtain ⟨consumed, whole, same⟩ := ih done
    refine ⟨some line :: consumed, congrArg (some line :: ·) whole, fun later => ?_⟩
    rw [List.cons_append, askBlanks_of_typed full unknown, same]
    rfl
  | case5 fillings full request line rest typed index found used ih =>
    obtain ⟨consumed, whole, same⟩ := ih done
    refine ⟨some line :: consumed, congrArg (some line :: ·) whole, fun later => ?_⟩
    rw [List.cons_append, askBlanks_of_taken full found (by simpa using used), same]
    rfl
  | case6 fillings full request line rest typed index found used ih =>
    obtain ⟨consumed, whole, same⟩ := ih done
    refine ⟨some line :: consumed, congrArg (some line :: ·) whole, fun later => ?_⟩
    rw [List.cons_append, askBlanks_of_free full found (by simpa using used), same]
    rfl

inductive Attempted (question : Question) (labels : Labels) (chips : List Text) :
    List Text → Except ReplyError Response → Prop
  | reply (line : Text) (single : question.kind ≠ .fillBlank) :
      Attempted question labels chips [line] (question.response labels line)
  | blanks {lines : List Text} {said : Transcript} {filled : List Filling}
      (fill : question.kind = .fillBlank)
      (done : question.askBlanks chips [] (lines.map some) = ⟨said, .done filled, []⟩) :
      Attempted question labels chips lines (.ok (blanksOf chips filled))

def outcome? (question : Question) (labels : Labels) :
    Except ReplyError Response → Option Outcome
  | .ok response => (labels.verdict question (question.grade response)).1
  | .error _ => none

inductive Fruitless (question : Question) (labels : Labels) (chips : List Text) :
    List Text → Prop
  | nil : Fruitless question labels chips []
  | attempt {lines later : List Text} {result : Except ReplyError Response}
      (attempted : question.Attempted labels chips lines result)
      (failed : question.outcome? labels result = none)
      (more : Fruitless question labels chips later) :
      Fruitless question labels chips (lines ++ later)

inductive Settled (question : Question) (labels : Labels) (chips : List Text) :
    List Text → List Text → Outcome → Prop
  | last {lines : List Text} {result : Except ReplyError Response} {outcome : Outcome}
      (later : List Text) (attempted : question.Attempted labels chips lines result)
      (settled : question.outcome? labels result = some outcome) :
      Settled question labels chips (lines ++ later) later outcome
  | next {lines more later : List Text} {result : Except ReplyError Response} {outcome : Outcome}
      (attempted : question.Attempted labels chips lines result)
      (failed : question.outcome? labels result = none)
      (settled : Settled question labels chips more later outcome) :
      Settled question labels chips (lines ++ more) later outcome

theorem response_trim (question : Question) (labels : Labels) (line : Text) :
    question.response labels (Text.trim line) = question.response labels line := by
  simp only [response, Text.trim_trim]

theorem attempt_of_single (single : question.kind ≠ .fillBlank) (input : Input) :
    question.attempt labels chips input = question.askReply labels input := by
  unfold attempt
  split
  next fill => exact absurd fill single
  next => rfl

theorem takeReplies_after {later : Input} {said : Transcript}
    (same : question.attempt labels chips input =
      (question.attempt labels chips later).after said) :
    question.takeReplies labels chips input =
      (question.takeReplies labels chips later).after said := by
  have ending : (question.attempt labels chips input).ending =
      (question.attempt labels chips later).ending := by rw [same, Turn.ending_after]
  cases ended : (question.attempt labels chips later).ending with
  | exhausted =>
    rw [takeReplies_of_exhausted ended, takeReplies_of_exhausted (ending.trans ended), same]
    rfl
  | unreadable =>
    rw [takeReplies_of_unreadable ended, takeReplies_of_unreadable (ending.trans ended), same]
    rfl
  | done response =>
    rcases graded : labels.verdict question (question.grade response) with ⟨_ | outcome, message⟩
    · rw [takeReplies_of_incomplete ended graded,
        takeReplies_of_incomplete (ending.trans ended) graded, same, Turn.after_after,
        ← List.append_assoc]
      rfl
    · rw [takeReplies_of_settled ended graded,
        takeReplies_of_settled (ending.trans ended) graded, same]
      simp [Turn.after]

theorem takeReplies_of_unrecognized {line : Text} {error : ReplyError}
    (single : question.kind ≠ .fillBlank) (failed : question.response labels line = .error error)
    (rest : Input) :
    question.takeReplies labels chips (some line :: rest) =
      (question.takeReplies labels chips rest).after
        [.request question.hint, .line error.message] := by
  apply takeReplies_after
  rw [attempt_of_single single, attempt_of_single single, askReply, response_trim, failed]

theorem attempt_of_attempted {lines : List Text} {response : Response}
    (attempted : question.Attempted labels chips lines (.ok response)) :
    ∃ said, ∀ rest, question.attempt labels chips (lines.map some ++ rest) =
      ⟨said, .done response, rest⟩ := by
  generalize given : Except.ok response = result at attempted
  cases attempted with
  | reply line single =>
    refine ⟨[.request question.hint], fun rest => ?_⟩
    rw [attempt_of_single single, List.map_singleton, List.singleton_append, askReply,
      response_trim, ← given]
  | @blanks _ said filled fill done =>
    obtain rfl := Except.ok.inj given
    obtain ⟨consumed, whole, same⟩ := askBlanks_local (congrArg Turn.ending done)
    rw [done, List.append_nil] at whole
    refine ⟨said, fun rest => ?_⟩
    simp only [attempt, fill]
    rw [whole, same rest, done]
    rfl

section Attempted

variable {lines : List Text} {result : Except ReplyError Response}
  (attempted : question.Attempted labels chips lines result)

include attempted

theorem takeReplies_of_failed (failed : question.outcome? labels result = none) :
    ∃ said, ∀ rest, question.takeReplies labels chips (lines.map some ++ rest) =
      (question.takeReplies labels chips rest).after said := by
  cases result with
  | error error =>
    generalize given : Except.error error = result at attempted
    cases attempted with
    | reply line single => exact ⟨_, takeReplies_of_unrecognized single given.symm⟩
    | blanks => contradiction
  | ok response =>
    obtain ⟨said, run⟩ := attempt_of_attempted attempted
    rcases graded : labels.verdict question (question.grade response) with ⟨_ | outcome, message⟩
    · refine ⟨said ++ [.line message], fun rest => ?_⟩
      have ended : (question.attempt labels chips (lines.map some ++ rest)).ending =
          .done response := by rw [run]
      rw [takeReplies_of_incomplete ended graded, run]
    · simp [outcome?, graded] at failed

theorem takeReplies_of_outcome {outcome : Outcome}
    (settled : question.outcome? labels result = some outcome) :
    ∃ said, ∀ rest, question.takeReplies labels chips (lines.map some ++ rest) =
      ⟨said, .done outcome, rest⟩ := by
  cases result with
  | error error => contradiction
  | ok response =>
    obtain ⟨said, run⟩ := attempt_of_attempted attempted
    obtain ⟨message, graded⟩ : ∃ message,
        labels.verdict question (question.grade response) = (some outcome, message) :=
      ⟨_, Prod.ext settled rfl⟩
    refine ⟨said ++ [.line message, .line []], fun rest => ?_⟩
    have ended : (question.attempt labels chips (lines.map some ++ rest)).ending =
        .done response := by rw [run]
    rw [takeReplies_of_settled ended graded, run]

end Attempted

theorem takeReplies_of_fruitless {lines : List Text}
    (fruitless : question.Fruitless labels chips lines) :
    ∃ said, ∀ rest, question.takeReplies labels chips (lines.map some ++ rest) =
      (question.takeReplies labels chips rest).after said := by
  induction fruitless with
  | nil => exact ⟨[], fun rest => rfl⟩
  | attempt attempted failed _ ih =>
    obtain ⟨said, first⟩ := takeReplies_of_failed attempted failed
    obtain ⟨saidLater, later⟩ := ih
    refine ⟨said ++ saidLater, fun rest => ?_⟩
    rw [List.map_append, List.append_assoc, first, later, Turn.after_after]

theorem exists_attempted_or (question : Question) (labels : Labels) (chips lines : List Text) :
    (∃ first later result, lines = first ++ later ∧ first ≠ [] ∧
        question.Attempted labels chips first result) ∨
      (question.takeReplies labels chips (lines.map some)).ending = .exhausted := by
  by_cases fill : question.kind = .fillBlank
  · have same : question.attempt labels chips (lines.map some) =
        (question.askBlanks chips [] (lines.map some)).map (blanksOf chips) := by
      simp only [attempt, fill]
    cases ended : (question.askBlanks chips [] (lines.map some)).ending with
    | exhausted =>
      have stopped : (question.attempt labels chips (lines.map some)).ending = .exhausted := by
        rw [same, Turn.map, ended, Ending.map]
      exact .inr (by rw [takeReplies_of_exhausted stopped])
    | unreadable =>
      have unreadable := (question.askBlanks_spends chips [] (lines.map some)).unreadable ended
      simp at unreadable
    | done filled =>
      obtain ⟨consumed, whole, run⟩ := askBlanks_local ended
      obtain ⟨first, later, rfl, rfl, -⟩ := List.map_eq_append_iff.mp whole
      have done := run []
      rw [List.append_nil] at done
      refine .inl ⟨first, later, _, rfl, ?_, .blanks fill done⟩
      rintro rfl
      have unfilled : ¬ question.blankCount ≤ ([] : List Filling).length :=
        Nat.not_le.mpr (blankCount_pos fill)
      rw [List.map_nil, askBlanks_nil unfilled] at done
      simp at done
  · cases lines with
    | nil => exact .inr (question.present_nil labels 0 0 chips)
    | cons line later => exact .inl ⟨[line], later, _, rfl, by simp, .reply line fill⟩

theorem ended_of_settled {lines later : List Text} {outcome : Outcome}
    (settled : question.Settled labels chips lines later outcome) :
    (question.takeReplies labels chips (lines.map some)).ending = .done outcome ∧
      (question.takeReplies labels chips (lines.map some)).rest = later.map some := by
  induction settled with
  | last later attempted settled =>
    obtain ⟨said, run⟩ := takeReplies_of_outcome attempted settled
    rw [List.map_append, run]
    exact ⟨rfl, rfl⟩
  | next attempted failed _ ih =>
    obtain ⟨said, run⟩ := takeReplies_of_failed attempted failed
    rwa [List.map_append, run]

theorem exists_settled_or (question : Question) (labels : Labels) (chips lines : List Text) :
    (∃ later outcome, question.Settled labels chips lines later outcome) ∨
      (question.takeReplies labels chips (lines.map some)).ending = .exhausted := by
  induction length : lines.length using Nat.strong_induction_on generalizing lines with
  | h count ih =>
    rcases question.exists_attempted_or labels chips lines with
      ⟨first, more, result, rfl, filled, attempted⟩ | exhausted
    · cases verdict : question.outcome? labels result with
      | some outcome => exact .inl ⟨more, outcome, .last more attempted verdict⟩
      | none =>
        have shorter : more.length < count := by
          have positive := List.length_pos_of_ne_nil filled
          rw [← length, List.length_append]
          omega
        rcases ih more.length shorter more rfl with ⟨later, outcome, settled⟩ | exhausted
        · exact .inl ⟨later, outcome, .next attempted verdict settled⟩
        · obtain ⟨said, run⟩ := takeReplies_of_failed attempted verdict
          exact .inr (by rw [List.map_append, run, Turn.ending_after, exhausted])
    · exact .inr exhausted

theorem ending_eq_exhausted_iff (question : Question) (labels : Labels)
    (chips lines : List Text) :
    (question.takeReplies labels chips (lines.map some)).ending = .exhausted ↔
      ¬ ∃ later outcome, question.Settled labels chips lines later outcome := by
  constructor
  · rintro exhausted ⟨later, outcome, settled⟩
    simp [(ended_of_settled settled).1] at exhausted
  · exact (question.exists_settled_or labels chips lines).resolve_left

/-- A presentation ends after at most one attempt for each line and one more. Each request is
answered by one line, but for a last one that finds the input at its end. There is no outcome
exactly when the input ends before an attempt has one, and lines that come to nothing change neither
the outcome nor what is left of the lines behind them. -/
theorem present_ends_and_forgets (question : Question) (labels : Labels) (number total : Nat)
    (chips lines : List Text) :
    let turn := question.present labels number total chips (lines.map some)
    (question.takeRepliesWithin labels chips (lines.length + 1) (lines.map some)).map
        (·.after ((question.heading number total :: question.shown labels chips).map .line)) =
      some turn ∧
    turn.ReadsByLine (lines.map some) ∧
    turn.said.requests + turn.rest.length =
      lines.length + (if turn.ending = .exhausted then 1 else 0) ∧
    (turn.ending = .exhausted ↔
      ¬ ∃ later outcome, question.Settled labels chips lines later outcome) ∧
    (∀ later outcome, question.Settled labels chips lines later outcome →
      turn.ending = .done outcome ∧ turn.rest = later.map some) ∧
    ∀ failed later, lines = failed ++ later → question.Fruitless labels chips failed →
      turn.ending = (question.present labels number total chips (later.map some)).ending ∧
      turn.rest = (question.present labels number total chips (later.map some)).rest := by
  intro turn
  have orderly := question.present_readsByLine labels number total chips (lines.map some)
  refine ⟨?_, orderly, ?_, question.ending_eq_exhausted_iff labels chips lines,
    fun _ _ => ended_of_settled, ?_⟩
  · rw [takeRepliesWithin_eq (by simp)]
    rfl
  · obtain ⟨stopped, going⟩ := orderly.requests_eq
    rw [List.length_map] at stopped going
    split_ifs with exhausted
    · exact stopped exhausted
    · exact going exhausted
  · rintro failed later rfl fruitless
    obtain ⟨said, run⟩ := takeReplies_of_fruitless fruitless
    simp only [turn, present, Turn.ending_after, Turn.rest_after, List.map_append, run, and_self]

def retryQuestion : Question :=
  ⟨.fillBlank, "[blank] [blank]", [], [("go" : Text), "to"], "go, to"⟩

def retryChips : List Text := ["to", "go"]

-- The second line is refused, the third leaves a blank empty.
def vainLines : List Text := ["go", " GO", ""]

-- A label, an answer, and a line that is left alone.
def freshLines : List Text := ["b", "to", "x"]

theorem present_after_vainLines :
    retryQuestion.Fruitless .standard retryChips vainLines ∧
      retryQuestion.Settled .standard retryChips freshLines ["x"] .correct ∧
      (retryQuestion.present .standard 1 1 retryChips ((vainLines ++ freshLines).map some)).ending =
        .done .correct ∧
      (retryQuestion.present .standard 1 1 retryChips ((vainLines ++ freshLines).map some)).rest =
        [some ("x" : Text)] := by
  have vain : retryQuestion.Attempted .standard retryChips vainLines _ :=
    .blanks rfl (show retryQuestion.askBlanks retryChips [] (vainLines.map some) =
      ⟨[.request "Blank 1", .request "Blank 2", .line "Choice b is already used.",
        .request "Blank 2"], .done [.chip 1, .typed []], []⟩ by decide +kernel)
  have fresh : retryQuestion.Attempted .standard retryChips ["b", "to"] _ :=
    .blanks rfl (show retryQuestion.askBlanks retryChips [] ([("b" : Text), "to"].map some) =
      ⟨[.request "Blank 1", .request "Blank 2"], .done [.chip 1, .chip 0], []⟩ by decide +kernel)
  have fruitless : retryQuestion.Fruitless .standard retryChips vainLines :=
    .attempt vain (by decide +kernel) .nil
  have settled : retryQuestion.Settled .standard retryChips freshLines ["x"] .correct :=
    .last ["x"] fresh (by decide +kernel)
  obtain ⟨-, -, -, -, -, forget⟩ := present_ends_and_forgets retryQuestion .standard 1 1 retryChips
    (vainLines ++ freshLines)
  obtain ⟨-, -, -, -, outcome, -⟩ := present_ends_and_forgets retryQuestion .standard 1 1 retryChips
    freshLines
  obtain ⟨ending, rest⟩ := forget vainLines freshLines rfl fruitless
  obtain ⟨done, left⟩ := outcome ["x"] .correct settled
  exact ⟨fruitless, settled, ending.trans done, rest.trans left⟩

end Question

end PlainQuiz
