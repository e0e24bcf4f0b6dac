import PlainQuiz.Grade
import PlainQuiz.Settings.Basic

set_option autoImplicit false

namespace PlainQuiz

structure ReplyError where
  reply : Text
  deriving DecidableEq, Repr

def ReplyError.message (error : ReplyError) : Text :=
  "unrecognized true/false response: '" ++ error.reply ++ "'"

namespace Reply

def blankSeparator : Char := '|'

-- Empty pieces name no option.
def ids (reply : Text) : List Text := (Text.splitCommas reply).filter (· ≠ [])

def fillings (reply : Text) : List Text := (reply.splitOn blankSeparator).map Text.trim

-- The configured labels are tried before the fixed words, and an empty reply chooses nothing.
def truth (labels : Labels) (reply : Text) : Except ReplyError (Option Bool) :=
  let word := Text.lower reply
  if reply = [] then .ok none
  else if word = Text.lower labels.trueLabel then .ok (some true)
  else if word = Text.lower labels.falseLabel then .ok (some false)
  else if [("true" : Text), "t", "wahr"].contains word then .ok (some true)
  else if [("false" : Text), "f"].contains word then .ok (some false)
  else .error ⟨reply⟩

end Reply

def Question.response (question : Question) (labels : Labels) (line : Text) :
    Except ReplyError Response :=
  let reply := Text.trim line
  match question.kind with
  | .multipleChoice => .ok (.selection (Reply.ids reply))
  | .sort => .ok (.order (Reply.ids reply))
  | .freeText => .ok (.text reply)
  | .fillBlank => .ok (.blanks (Reply.fillings reply))
  | .trueFalse => (Reply.truth labels reply).map .truth

inductive Outcome where
  | correct
  | incorrect
  -- The answers of the question are not enough to grade it.
  | misconfigured
  deriving DecidableEq, Repr

namespace Labels

def forTruth (labels : Labels) (expected : Text) : Text :=
  if Text.sameIgnoringAsciiCase expected "true" then labels.trueLabel else labels.falseLabel

def verdict (labels : Labels) (question : Question) :
    Except GradeError Verdict → Option Outcome × Text
  | .ok verdict =>
    if verdict.correct then (some .correct, labels.correct)
    else
      let expected :=
        if question.kind = .trueFalse then labels.forTruth verdict.expected else verdict.expected
      (some .incorrect, labels.incorrect ++ " " ++ expected)
  | .error error =>
    if error.isIncomplete then (none, labels.incomplete)
    else (some .misconfigured, "Error: " ++ error.message)

end Labels

end PlainQuiz
