import PlainQuiz.Text.LetterCase

set_option autoImplicit false

namespace PlainQuiz

inductive Kind where
  | multipleChoice
  | freeText
  | trueFalse
  | fillBlank
  | sort
  deriving DecidableEq, Repr

namespace Kind

def tag : Kind → Text
  | multipleChoice => "mc"
  | freeText => "text"
  | trueFalse => "tf"
  | fillBlank => "fb"
  | sort => "sort"

def title : Kind → Text
  | multipleChoice => "multiple choice"
  | freeText => "free text"
  | trueFalse => "true/false"
  | fillBlank => "fill-in-the-blank"
  | sort => "sort"

-- The name used in JSON.
def key : Kind → Text
  | multipleChoice => "multiple_choice"
  | freeText => "free_text"
  | trueFalse => "true_false"
  | fillBlank => "fill_blank"
  | sort => "sort"

def requiresOptions : Kind → Bool
  | multipleChoice | sort => true
  | freeText | trueFalse | fillBlank => false

def ofTag? (tag : Text) : Option Kind :=
  let tag := Text.lower (Text.trim tag)
  if tag = "mc" then some multipleChoice
  else if tag = "text" then some freeText
  else if tag = "tf" ∨ tag = "truefalse" then some trueFalse
  else if tag = "fb" ∨ tag = "fillblank" then some fillBlank
  else if tag = "sort" then some sort
  else none

def ofTag (tag : Text) : Kind := (ofTag? tag).getD multipleChoice

theorem ofTag?_tag (kind : Kind) : ofTag? kind.tag = some kind := by
  cases kind <;> decide

end Kind

end PlainQuiz
