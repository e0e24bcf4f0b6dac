import PlainQuiz.Question

set_option autoImplicit false

namespace PlainQuiz

inductive Warning where
  | repeatedOption (id : Text)
  | emptyAnswer
  | unknownAnswer (answer : Text)
  | unknownSortAnswer (answer : Text)
  | repeatedSortAnswer (answer : Text)
  | omittedOptions (ids : List Text)
  | noGap
  | tooFewAnswers (answers blanks : Nat)
  | extraAnswers (answers blanks : Nat)
  | unknownTruth (answer : Text)
  | ignoredOptions (kind : Kind) (count : Nat)
  deriving DecidableEq, Repr

def Warning.message : Warning → Text
  | repeatedOption id => "duplicate option ID: " ++ id
  | emptyAnswer => "answer list contains an empty value (stray comma?)"
  | unknownAnswer answer => "answer '" ++ answer ++ "' does not match any option"
  | unknownSortAnswer answer => "sort answer '" ++ answer ++ "' does not match any option"
  | repeatedSortAnswer answer => "sort answer '" ++ answer ++ "' is listed more than once"
  | omittedOptions ids => "sort answer omits option(s): " ++ Text.join ", " ids
  | noGap => "fill-in-the-blank prompt has no [blank] placeholder"
  | tooFewAnswers answers blanks =>
    "not enough answers: " ++ Text.ofNat answers ++ " answer(s) for " ++ Text.ofNat blanks ++
      " blank(s); responses cannot be graded"
  | extraAnswers answers blanks =>
    Text.ofNat answers ++ " answer(s) for " ++ Text.ofNat blanks ++
      " blank(s); extra answers are ignored"
  | unknownTruth answer =>
    "answer '" ++ answer ++ "' is not true, false or wahr and is treated as false"
  | ignoredOptions kind count =>
    kind.title ++ " questions ignore options, but " ++ Text.ofNat count ++ " were declared"

namespace Review

def repeatedOptions (seen : List Text) : List Text → List Warning
  | [] => []
  | id :: rest =>
    if seen.contains id then .repeatedOption id :: repeatedOptions seen rest
    else repeatedOptions (id :: seen) rest

def emptyAnswers (answers : List Text) : List Warning :=
  if answers.contains [] then [.emptyAnswer] else []

def unknownAnswers (question : Question) : List Warning :=
  (question.answers.filter fun answer => answer != [] && (question.option? answer).isNone).map
    .unknownAnswer

def sortAnswers (ids listed : List Text) : List Text → List Warning
  | [] => []
  | answer :: rest =>
    (if ids.contains answer then [] else [.unknownSortAnswer answer]) ++
      (if listed.contains answer then [.repeatedSortAnswer answer] else []) ++
      sortAnswers ids (answer :: listed) rest

def omittedOptions (ids answers : List Text) : List Warning :=
  match ids.filter (!answers.contains ·) with
  | [] => []
  | missing => [.omittedOptions missing]

def blanks (question : Question) : List Warning :=
  let answers := question.answers.length
  let blanks := question.blankCount
  (if Prompt.hasGap question.prompt then [] else [.noGap]) ++
    if answers < blanks then [.tooFewAnswers answers blanks]
    else if blanks < answers then [.extraAnswers answers blanks]
    else []

def ignoredOptions (question : Question) : List Warning :=
  if question.options = [] then [] else [.ignoredOptions question.kind question.options.length]

def forKind (question : Question) : List Warning :=
  match question.kind with
  | .multipleChoice => unknownAnswers question
  | .sort =>
    sortAnswers question.optionIds [] question.answers ++
      omittedOptions question.optionIds question.answers
  | .fillBlank => blanks question ++ ignoredOptions question
  | .trueFalse =>
    (if Answer.isTruthToken question.rawAnswer then [] else [.unknownTruth question.rawAnswer]) ++
      ignoredOptions question
  | .freeText => ignoredOptions question

end Review

def Question.warnings (question : Question) : List Warning :=
  Review.repeatedOptions [] question.optionIds ++ Review.emptyAnswers question.answers ++
    Review.forKind question

end PlainQuiz
