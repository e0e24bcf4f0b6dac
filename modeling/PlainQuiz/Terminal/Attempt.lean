import PlainQuiz.Terminal.Chips
import PlainQuiz.Terminal.Reply
import PlainQuiz.Terminal.Turn

set_option autoImplicit false

namespace PlainQuiz.Question

def hint (question : Question) : Text :=
  match question.kind with
  | .multipleChoice => "Select option ids (comma-separated)"
  | .sort => "Enter option ids in order (comma-separated)"
  | .freeText | .trueFalse | .fillBlank => "Your answer"

def askReply (question : Question) (labels : Labels) : Input → Turn Response
  | [] => ⟨[.request question.hint], .exhausted, []⟩
  | none :: rest => ⟨[.request question.hint], .unreadable, rest⟩
  | some line :: rest =>
    match question.response labels (Text.trim line) with
    | .ok response => ⟨[.request question.hint], .done response, rest⟩
    | .error error =>
      (question.askReply labels rest).after [.request question.hint, .line error.message]

def blankHint (number : Nat) : Text := "Blank " ++ Text.ofNat number

def takenMessage (index : Nat) : Text := "Choice " ++ Chips.label index ++ " is already used."

def askBlanks (question : Question) (chips : List Text) (fillings : List Filling) (input : Input) :
    Turn (List Filling) :=
  if question.blankCount ≤ fillings.length then ⟨[], .done fillings, input⟩
  else
    let request := Utterance.request (blankHint (fillings.length + 1))
    match input with
    | [] => ⟨[request], .exhausted, []⟩
    | none :: rest => ⟨[request], .unreadable, rest⟩
    | some line :: rest =>
      let typed := Text.trim line
      match Chips.find chips (Filling.taken fillings) typed with
      | none => (question.askBlanks chips (fillings ++ [.typed typed]) rest).after [request]
      | some index =>
        if (Filling.taken fillings).contains index then
          (question.askBlanks chips fillings rest).after [request, .line (takenMessage index)]
        else (question.askBlanks chips (fillings ++ [.chip index]) rest).after [request]

def blanksOf (chips : List Text) (fillings : List Filling) : Response :=
  .blanks (fillings.map (Filling.text chips))

def attempt (question : Question) (labels : Labels) (chips : List Text) (input : Input) :
    Turn Response :=
  match question.kind with
  | .fillBlank => (question.askBlanks chips [] input).map (blanksOf chips)
  | _ => question.askReply labels input

theorem askReply_rest_lt (question : Question) (labels : Labels) (input : Input)
    (response : Response) (done : (question.askReply labels input).ending = .done response) :
    (question.askReply labels input).rest.length < input.length := by
  induction input with
  | nil => simp [askReply] at done
  | cons line rest ih =>
    cases line with
    | none => simp [askReply] at done
    | some line =>
      unfold askReply at done ⊢
      split
      next => simp
      next error failed =>
        simp only [failed, Turn.ending_after] at done
        simpa using Nat.lt_succ_of_lt (ih done)

theorem askBlanks_rest_le (question : Question) (chips : List Text) (fillings : List Filling)
    (input : Input) :
    (question.askBlanks chips fillings input).rest.length ≤ input.length := by
  fun_induction askBlanks question chips fillings input <;>
    simp_all <;> omega

theorem askBlanks_rest_lt (question : Question) (chips : List Text) (fillings : List Filling)
    (input : Input) (unfilled : fillings.length < question.blankCount) (filled : List Filling)
    (done : (question.askBlanks chips fillings input).ending = .done filled) :
    (question.askBlanks chips fillings input).rest.length < input.length := by
  cases input with
  | nil =>
    unfold askBlanks at done
    simp [Nat.not_le.mpr unfilled] at done
  | cons line rest =>
    cases line with
    | none =>
      unfold askBlanks at done
      simp [Nat.not_le.mpr unfilled] at done
    | some line =>
      unfold askBlanks
      simp only [Nat.not_le.mpr unfilled, if_false]
      split
      next => simpa using Nat.lt_succ_of_le (askBlanks_rest_le ..)
      next =>
        split <;> simpa using Nat.lt_succ_of_le (askBlanks_rest_le ..)

theorem attempt_rest_lt {question : Question} {labels : Labels} {chips : List Text}
    {input : Input} {response : Response}
    (done : (question.attempt labels chips input).ending = .done response) :
    (question.attempt labels chips input).rest.length < input.length := by
  unfold attempt at done ⊢
  split at done
  next fill =>
    obtain ⟨filled, ended, _⟩ := Turn.done_of_map done
    exact askBlanks_rest_lt question chips [] input (blankCount_pos fill) filled ended
  next => exact askReply_rest_lt question labels input response done

end PlainQuiz.Question
