import PlainQuiz.Kind

set_option autoImplicit false

namespace PlainQuiz

namespace Prompt

def gap : Text := "[blank]"

def segments : Text → List Text
  | [] => [[]]
  | '[' :: 'b' :: 'l' :: 'a' :: 'n' :: 'k' :: ']' :: rest => [] :: segments rest
  | c :: rest => (segments rest).modifyHead (c :: ·)

def countGaps : Text → Nat
  | [] => 0
  | '[' :: 'b' :: 'l' :: 'a' :: 'n' :: 'k' :: ']' :: rest => countGaps rest + 1
  | _ :: rest => countGaps rest

def hasGap (prompt : Text) : Bool := 0 < countGaps prompt

theorem segments_gap (rest : Text) : segments (gap ++ rest) = [] :: segments rest := rfl

theorem countGaps_gap (rest : Text) : countGaps (gap ++ rest) = countGaps rest + 1 := rfl

end Prompt

namespace Answer

def truthToken (text : Text) : Text := Text.lower (Text.trim text)

def isTruthToken (text : Text) : Bool :=
  [("true" : Text), "false", "wahr"].contains (truthToken text)

-- Whatever is not a spelling of true counts as false.
def truth (text : Text) : Bool := [("true" : Text), "wahr"].contains (truthToken text)

def truthText : Bool → Text
  | true => "true"
  | false => "false"

-- `prompt` is what is known of the prompt so far; it decides whether commas separate the fillings
-- of several gaps.
def interpret (kind : Kind) (prompt text : Text) : List Text :=
  match kind with
  | .fillBlank => if Prompt.countGaps prompt ≤ 1 then [text] else Text.splitCommas text
  | .trueFalse => [truthText (truth text)]
  | .multipleChoice | .freeText | .sort => Text.splitCommas text

end Answer

structure Choice where
  id : Text
  text : Text
  deriving DecidableEq, Repr

structure Question where
  kind : Kind
  prompt : Text
  options : List Choice
  answers : List Text
  -- The answer as its author wrote it.
  rawAnswer : Text
  deriving DecidableEq, Repr

namespace Question

def option? (question : Question) (id : Text) : Option Choice :=
  question.options.find? (·.id == id)

def optionIds (question : Question) : List Text := question.options.map (·.id)

-- A fill-in-the-blank prompt without a gap has one blank.
def blankCount (question : Question) : Nat :=
  match question.kind with
  | .fillBlank => max 1 (Prompt.countGaps question.prompt)
  | _ => 0

theorem blankCount_pos {question : Question} (fill : question.kind = .fillBlank) :
    0 < question.blankCount := by
  simp only [blankCount, fill]
  omega

end Question

inductive BlockError where
  | empty
  | noPrompt
  | noAnswer
  | noOptions (kind : Kind)
  deriving DecidableEq, Repr

def BlockError.message : BlockError → Text
  | empty => "quiz content cannot be empty"
  | noPrompt => "quiz must have a question"
  | noAnswer => "quiz must have at least one answer"
  | noOptions kind => kind.title ++ " questions must have options"

end PlainQuiz
