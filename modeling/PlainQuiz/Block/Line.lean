import PlainQuiz.Text.Basic

set_option autoImplicit false

namespace PlainQuiz.Block

def marker : Text := "-- "

def kindMarker : Text := "-- Type "

def promptMarker : Text := "-- Question"

def answerMarker : Text := "-- answer"

inductive Line where
  | kind (tag : Text)
  | prompt (text : Text)
  | answer (text : Text)
  | option (id : Text)
  | content (text : Text)
  deriving DecidableEq, Repr

def isDirective (line : Text) : Bool := marker.isPrefixOf line

-- The keyword of an answer may be written in any letter case.
def isAnswer (line : Text) : Bool :=
  Text.sameIgnoringAsciiCase (line.take answerMarker.length) answerMarker

-- The keywords are tried in this order: a prompt keyword needs no space after it, and an option
-- cannot be named by a keyword.
def Line.ofText (line : Text) : Line :=
  if kindMarker.isPrefixOf line then .kind (Text.trim (line.drop kindMarker.length))
  else if promptMarker.isPrefixOf line then .prompt (Text.trim (line.drop promptMarker.length))
  else if isDirective line then
    if isAnswer line then .answer (Text.trim (line.drop answerMarker.length))
    else .option (Text.trim (line.drop marker.length))
  else .content line

def contentLines (source : Text) : List Text :=
  ((Text.lines source).map Text.trim).filter (· ≠ [])

inductive Mode where
  | idle
  | inPrompt
  | inOption (index : Nat)
  | inAnswer
  deriving DecidableEq, Repr

def Mode.label : Mode → Text
  | idle => "Idle"
  | inPrompt => "InQuestion"
  | inOption index => "InOption(" ++ Text.ofNat index ++ ")"
  | inAnswer => "InAnswer"

def Mode.atDirective : Mode → Mode
  | inPrompt => idle
  | mode => mode

end PlainQuiz.Block
