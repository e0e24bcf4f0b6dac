import PlainQuiz.Event
import PlainQuiz.Text.LetterCase

set_option autoImplicit false

namespace PlainQuiz

inductive Response where
  | selection (ids : List Text)
  | text (value : Text)
  -- Nothing when neither value was chosen.
  | truth (value : Option Bool)
  | blanks (fillings : List Text)
  | order (ids : List Text)
  deriving DecidableEq, Repr

def Response.shape : Response → Text
  | selection _ => "selection"
  | text _ => "text"
  | truth _ => "true/false"
  | blanks _ => "blanks"
  | order _ => "order"

structure Verdict where
  correct : Bool
  -- The right answer, worded for the quiz taker.
  expected : Text
  deriving DecidableEq, Repr

inductive GradeError where
  | nothingChosen
  | emptyBlank (number : Nat)
  | tooFewAnswers (answers blanks : Nat)
  | wrongShape (kind : Kind) (shape : Text)
  deriving DecidableEq, Repr

namespace GradeError

def isIncomplete : GradeError → Bool
  | nothingChosen | emptyBlank _ => true
  | tooFewAnswers _ _ | wrongShape _ _ => false

def message : GradeError → Text
  | nothingChosen => "response is incomplete: select true or false"
  | emptyBlank number => "response is incomplete: blank " ++ Text.ofNat number ++ " is empty"
  | tooFewAnswers answers blanks =>
    "not enough correct answers defined: " ++ Text.ofNat answers ++ " answer(s) for " ++
      Text.ofNat blanks ++ " blank(s)"
  | wrongShape kind shape =>
    "a " ++ shape ++ " response cannot grade a " ++ kind.title ++ " question"

end GradeError

namespace Grade

variable {α : Type} [BEq α]

def sameMembers (a b : List α) : Bool :=
  a.length == b.length && a.all (b.contains ·) && b.all (a.contains ·)

def sameSequence (a b : List α) : Bool :=
  a.length == b.length && (a.zip b).all fun (x, y) => x == y

def distinctFrom (seen : List α) : List α → List α
  | [] => []
  | x :: rest =>
    if seen.contains x then distinctFrom seen rest else x :: distinctFrom (x :: seen) rest

def distinct (items : List α) : List α := distinctFrom [] items

end Grade

namespace Question

open Grade

def gradeSelection (question : Question) (ids : List Text) : Bool :=
  sameMembers (distinct ids) (distinct question.answers)

def gradeText (question : Question) (text : Text) : Bool :=
  question.answers.any (Text.lower · == Text.lower (Text.trim text))

def gradeTruth (question : Question) : Option Bool → Except GradeError Bool
  | none => .error .nothingChosen
  | some value =>
    .ok (Text.lower (question.answers.headD []) == if value then ("true" : Text) else "false")

def isFilled (fillings : List Text) (index : Nat) : Bool :=
  match fillings[index]? with
  | some filling => Text.trim filling != []
  | none => false

def fits (question : Question) (fillings : List Text) (index : Nat) : Bool :=
  match fillings[index]?, question.answers[index]? with
  | some filling, some answer => Text.sameIgnoringCase filling answer
  | _, _ => false

-- An empty blank is reported before a short list of answers: the quiz taker sees it first.
def gradeBlanks (question : Question) (fillings : List Text) : Except GradeError Bool :=
  let places := List.range question.blankCount
  match places.find? fun index => !isFilled fillings index with
  | some index => .error (.emptyBlank (index + 1))
  | none =>
    if question.answers.length < question.blankCount then
      .error (.tooFewAnswers question.answers.length question.blankCount)
    else .ok (places.all (question.fits fillings))

def gradeOrder (question : Question) (ids : List Text) : Bool :=
  sameSequence ids question.answers

def answerSummary (question : Question) : Text :=
  match question.kind with
  | .multipleChoice | .fillBlank => Text.join ", " question.answers
  | .freeText => Text.join " or " question.answers
  | .trueFalse =>
    if Text.sameIgnoringAsciiCase (question.answers.headD []) "true" then "True" else "False"
  | .sort =>
    Text.join " → " (question.answers.map fun id =>
      ((question.option? id).map (·.text)).getD id)

def isCorrect (question : Question) (response : Response) : Except GradeError Bool :=
  match question.kind, response with
  | .multipleChoice, .selection ids => .ok (question.gradeSelection ids)
  | .freeText, .text value => .ok (question.gradeText value)
  | .trueFalse, .truth value => question.gradeTruth value
  | .fillBlank, .blanks fillings => question.gradeBlanks fillings
  | .sort, .order ids => .ok (question.gradeOrder ids)
  | kind, other => .error (.wrongShape kind other.shape)

def grade (question : Question) (response : Response) : Except GradeError Verdict :=
  (question.isCorrect response).map fun correct => ⟨correct, question.answerSummary⟩

def gradeEvents (question : Question) (response : Response) : List Event :=
  match question.grade response with
  | .ok verdict => [.graded question.kind verdict.correct]
  | .error _ => []

end Question

end PlainQuiz
