import PlainQuiz.Files.Tree
import PlainQuiz.Terminal.Presentation
import PlainQuiz.Terminal.Scorecard

set_option autoImplicit false

namespace PlainQuiz

structure Session (Generator : Type) where
  input : Input
  shuffler : Shuffler Generator
  generator : Generator
  card : Scorecard

namespace Session

variable {Generator : Type}

-- Without a seed, `unseeded` decides the order of the chips.
def start (shuffler : Shuffler Generator) (settings : Settings) (unseeded : Generator)
    (input : Input) : Session Generator :=
  ⟨input, shuffler, (settings.seed.map shuffler.ofSeed).getD unseeded, .blank⟩

-- An unreadable line leaves its question without a record.
def recordEnding (card : Scorecard) : Ending Outcome → Scorecard
  | .done outcome => card.record (some outcome)
  | .exhausted => card.record none
  | .unreadable => card

-- Only a fill-in-the-blank question has chips on display.
def offer (session : Session Generator) (settings : Settings) (question : Question) :
    List Text × Generator :=
  match question.kind with
  | .fillBlank => question.chips session.shuffler settings.shuffleChips session.generator
  | _ => ([], session.generator)

def ask (session : Session Generator) (settings : Settings) (number total : Nat)
    (question : Question) : Session Generator × Turn Outcome :=
  let (chips, generator) := session.offer settings question
  let turn := question.present settings.labels number total chips session.input
  ({ session with
    input := turn.rest
    generator := generator
    card := recordEnding session.card turn.ending }, turn)

def askEvents (session : Session Generator) (settings : Settings) (question : Question) :
    List Event :=
  question.takeRepliesEvents settings.labels (session.offer settings question).1 session.input

structure Report where
  said : Transcript
  ending : Ending Unit
  card : Scorecard
  deriving DecidableEq, Repr

def Report.after (report : Report) (said : Transcript) : Report :=
  { report with said := said ++ report.said }

-- When the input ends, the questions that are left count as unanswered and are not shown.
def quiz (session : Session Generator) (settings : Settings) (number total : Nat) :
    List Question → Report
  | [] => ⟨[], .done (), session.card⟩
  | question :: rest =>
    let (next, turn) := session.ask settings number total question
    match turn.ending with
    | .done _ => (next.quiz settings (number + 1) total rest).after turn.said
    | .exhausted =>
      ⟨turn.said, .exhausted, rest.foldl (fun card _ => card.record none) next.card⟩
    | .unreadable => ⟨turn.said, .unreadable, next.card⟩

-- The words of the failure that an unreadable line causes.
def unreadableMessage : Text := "failed to read response: " ++ FileError.notText.message

end Session

end PlainQuiz
