import PlainQuiz.Proofs.Terminal.Presentation

set_option autoImplicit false

namespace PlainQuiz

def Transcript.requests (said : Transcript) : Nat := said.countP Utterance.isRequest

theorem Turn.after_after {α : Type} (turn : Turn α) (said later : Transcript) :
    (turn.after later).after said = turn.after (said ++ later) := by
  simp only [Turn.after, List.append_assoc]

inductive Turn.ReadsByLine {α : Type} : Input → Turn α → Prop
  | done (result : α) (input : Input) : ReadsByLine input ⟨[], .done result, input⟩
  | exhausted (hint : Text) : ReadsByLine [] ⟨[.request hint], .exhausted, []⟩
  | unreadable (hint : Text) (rest : Input) :
      ReadsByLine (none :: rest) ⟨[.request hint], .unreadable, rest⟩
  | tells (text : Text) {input : Input} {turn : Turn α} (later : ReadsByLine input turn) :
      ReadsByLine input (turn.after [.line text])
  | reads (hint line : Text) {rest : Input} {turn : Turn α} (later : ReadsByLine rest turn) :
      ReadsByLine (some line :: rest) (turn.after [.request hint])

namespace Turn.ReadsByLine

variable {α β : Type} {input : Input} {turn : Turn α}

theorem tells_all (texts : List Text) (orderly : turn.ReadsByLine input) :
    (turn.after (texts.map .line)).ReadsByLine input := by
  induction texts with
  | nil => exact orderly
  | cons text texts ih => exact .tells text ih

theorem followed {next : Turn β} {result : α} (orderly : turn.ReadsByLine input)
    (ended : turn.ending = .done result) (later : next.ReadsByLine turn.rest) :
    (next.after turn.said).ReadsByLine input := by
  induction orderly with
  | done => exact later
  | exhausted | unreadable => contradiction
  | tells text _ ih => exact .tells text (ih ended later)
  | reads hint line _ ih => exact .reads hint line (ih ended later)

theorem map (f : α → β) (orderly : turn.ReadsByLine input) : (turn.map f).ReadsByLine input := by
  induction orderly with
  | done result input => exact .done (f result) input
  | exhausted hint => exact .exhausted hint
  | unreadable hint rest => exact .unreadable hint rest
  | tells text _ ih => exact .tells text ih
  | reads hint line _ ih => exact .reads hint line ih

theorem requests_eq (orderly : turn.ReadsByLine input) :
    (turn.ending = .exhausted → turn.said.requests + turn.rest.length = input.length + 1) ∧
      (turn.ending ≠ .exhausted → turn.said.requests + turn.rest.length = input.length) := by
  induction orderly with
  | done => simp [Transcript.requests]
  | exhausted | unreadable => simp [Transcript.requests, Utterance.isRequest, Nat.add_comm]
  | @tells text input turn _ ih => exact ih
  | @reads hint line rest turn _ ih =>
    have counted : (turn.after [.request hint]).said.requests = turn.said.requests + 1 :=
      List.countP_cons_of_pos rfl
    rw [Turn.ending_after, Turn.rest_after, counted, List.length_cons]
    constructor
    · intro ended
      have later := ih.1 ended
      omega
    · intro going
      have later := ih.2 going
      omega

end Turn.ReadsByLine

namespace Question

variable {question : Question} {labels : Labels} {chips : List Text} {input : Input}

theorem askBlanks_readsByLine (question : Question) (chips : List Text) (fillings : List Filling)
    (input : Input) : (question.askBlanks chips fillings input).ReadsByLine input := by
  fun_induction askBlanks question chips fillings input with
  | case1 => exact .done _ _
  | case2 => exact .exhausted _
  | case3 => exact .unreadable _ _
  | case4 fillings full request line rest typed unknown ih => exact .reads _ line ih
  | case5 fillings full request line rest typed index found used ih =>
    exact .reads _ line (.tells (takenMessage index) ih)
  | case6 fillings full request line rest typed index found used ih => exact .reads _ line ih

theorem askReply_readsByLine (question : Question) (labels : Labels) (input : Input) :
    (question.askReply labels input).ReadsByLine input := by
  fun_induction askReply question labels input with
  | case1 => exact .exhausted _
  | case2 => exact .unreadable _ _
  | case3 line rest response given => exact .reads _ line (.done response rest)
  | case4 line rest error failed ih => exact .reads _ line (.tells error.message ih)

theorem attempt_readsByLine (question : Question) (labels : Labels) (chips : List Text)
    (input : Input) : (question.attempt labels chips input).ReadsByLine input := by
  unfold attempt
  split
  next => exact (question.askBlanks_readsByLine chips [] input).map _
  next => exact question.askReply_readsByLine labels input

theorem takeReplies_readsByLine (question : Question) (labels : Labels) (chips : List Text)
    (input : Input) : (question.takeReplies labels chips input).ReadsByLine input := by
  induction input using question.attempts_induction labels chips with
  | step input ih =>
    have attempted := question.attempt_readsByLine labels chips input
    cases ended : (question.attempt labels chips input).ending with
    -- An exchange that stops has no result, whatever that would have been.
    | exhausted =>
      have stopped := attempted.map fun _ => Outcome.correct
      rw [takeReplies_of_exhausted ended]
      rwa [Turn.map, ended] at stopped
    | unreadable =>
      have stopped := attempted.map fun _ => Outcome.correct
      rw [takeReplies_of_unreadable ended]
      rwa [Turn.map, ended] at stopped
    | done response =>
      rcases graded : labels.verdict question (question.grade response) with ⟨_ | outcome, message⟩
      · rw [takeReplies_of_incomplete ended graded, ← Turn.after_after]
        exact attempted.followed ended (.tells message (ih response ended))
      · rw [takeReplies_of_settled ended graded]
        exact attempted.followed ended (.tells message (.tells [] (.done outcome _)))

theorem present_readsByLine (question : Question) (labels : Labels) (number total : Nat)
    (chips : List Text) (input : Input) :
    (question.present labels number total chips input).ReadsByLine input :=
  (question.takeReplies_readsByLine labels chips input).tells_all _

end Question

end PlainQuiz
