import PlainQuiz.Terminal.Attempt

set_option autoImplicit false

namespace PlainQuiz.Question

def takeReplies (question : Question) (labels : Labels) (chips : List Text) (input : Input) :
    Turn Outcome :=
  let attempt := question.attempt labels chips input
  match _done : attempt.ending with
  | .exhausted => ⟨attempt.said, .exhausted, attempt.rest⟩
  | .unreadable => ⟨attempt.said, .unreadable, attempt.rest⟩
  | .done response =>
    let (outcome, message) := labels.verdict question (question.grade response)
    match outcome with
    | some outcome => ⟨attempt.said ++ [.line message, .line []], .done outcome, attempt.rest⟩
    | none =>
      (question.takeReplies labels chips attempt.rest).after (attempt.said ++ [.line message])
termination_by input.length
decreasing_by exact attempt_rest_lt _done

def takeRepliesEvents (question : Question) (labels : Labels) (chips : List Text)
    (input : Input) : List Event :=
  let attempt := question.attempt labels chips input
  match _done : attempt.ending with
  | .exhausted | .unreadable => []
  | .done response =>
    question.gradeEvents response ++
      match (labels.verdict question (question.grade response)).1 with
      | some _ => []
      | none => question.takeRepliesEvents labels chips attempt.rest
termination_by input.length
decreasing_by exact attempt_rest_lt _done

def numberGaps (number : Nat) : List Text → Text
  | [] => []
  | [segment] => segment
  | segment :: rest => segment ++ "[" ++ Text.ofNat number ++ "]" ++ numberGaps (number + 1) rest

def heading (question : Question) (number total : Nat) : Text :=
  "Question " ++ Text.ofNat number ++ "/" ++ Text.ofNat total ++ " (" ++ question.kind.title ++ ")"

def shown (question : Question) (labels : Labels) (chips : List Text) : List Text :=
  match question.kind with
  | .fillBlank =>
    [numberGaps 1 (Prompt.segments question.prompt), "Available choices:"] ++
      chips.zipIdx.map fun (chip, index) => "  " ++ Chips.label index ++ ") " ++ chip
  | .trueFalse => [question.prompt, "  " ++ labels.trueLabel ++ " / " ++ labels.falseLabel]
  | .multipleChoice | .sort =>
    question.prompt :: question.options.map fun choice =>
      "  " ++ choice.id ++ ": " ++ choice.text
  | .freeText => [question.prompt]

def present (question : Question) (labels : Labels) (number total : Nat) (chips : List Text)
    (input : Input) : Turn Outcome :=
  (question.takeReplies labels chips input).after
    ((question.heading number total :: question.shown labels chips).map .line)

end PlainQuiz.Question
