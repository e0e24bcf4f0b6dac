import PlainQuiz.Text.Utf8

set_option autoImplicit false

namespace PlainQuiz

-- The lines still to be read. A line that is not text cannot be used.
abbrev Input := List (Option Text)

inductive Utterance where
  | line (text : Text)
  -- A request is answered on its own line.
  | request (hint : Text)
  deriving DecidableEq, Repr

def Utterance.text : Utterance → Text
  | line text => text ++ ['\n']
  | request hint => hint ++ ": "

def Utterance.isRequest : Utterance → Bool
  | line _ => false
  | request _ => true

abbrev Transcript := List Utterance

def Transcript.text (transcript : Transcript) : Text := transcript.flatMap Utterance.text

inductive Ending (α : Type) where
  | done (result : α)
  | exhausted
  | unreadable
  deriving DecidableEq, Repr

structure Turn (α : Type) where
  said : Transcript
  ending : Ending α
  rest : Input
  deriving DecidableEq, Repr

def Ending.map {α β : Type} (f : α → β) : Ending α → Ending β
  | done result => done (f result)
  | exhausted => exhausted
  | unreadable => unreadable

namespace Turn

variable {α β : Type}

def after (turn : Turn α) (said : Transcript) : Turn α := { turn with said := said ++ turn.said }

def map (f : α → β) (turn : Turn α) : Turn β := ⟨turn.said, turn.ending.map f, turn.rest⟩

@[simp] theorem ending_after (turn : Turn α) (said : Transcript) :
    (turn.after said).ending = turn.ending := rfl

@[simp] theorem rest_after (turn : Turn α) (said : Transcript) :
    (turn.after said).rest = turn.rest := rfl

theorem done_of_map {f : α → β} {turn : Turn α} {result : β}
    (done : (turn.map f).ending = .done result) : ∃ x, turn.ending = .done x ∧ f x = result := by
  cases ending : turn.ending with
  | done x => exact ⟨x, rfl, by simpa [map, Ending.map, ending] using done⟩
  | exhausted => simp [map, Ending.map, ending] at done
  | unreadable => simp [map, Ending.map, ending] at done

end Turn

end PlainQuiz
