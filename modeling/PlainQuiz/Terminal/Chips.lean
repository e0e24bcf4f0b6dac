import PlainQuiz.Question
import PlainQuiz.Tools

set_option autoImplicit false

namespace PlainQuiz

namespace Chips

-- The labels are `a` to `z`, then `aa` to `zz` with equal letters, and so on.
def label (index : Nat) : Text :=
  List.replicate (index / 26 + 1) (Char.ofNat ('a'.toNat + index % 26))

def reads (chips : List Text) (word : Text) (index : Nat) : Bool :=
  match chips[index]? with
  | some chip => Text.lower chip == word
  | none => false

-- The text of a chip is meant before any label, and a free chip before one that was taken.
def find (chips : List Text) (taken : List Nat) (input : Text) : Option Nat :=
  let word := Text.lower input
  let places := List.range chips.length
  (places.find? fun index => !taken.contains index && reads chips word index).or
    ((places.find? (reads chips word)).or (places.find? fun index => label index == word))

theorem find_lt {chips : List Text} {taken : List Nat} {input : Text} {index : Nat}
    (found : find chips taken input = some index) : index < chips.length := by
  simp only [find, Option.or_eq_some_iff] at found
  rcases found with h | ⟨_, h | ⟨_, h⟩⟩ <;> exact List.mem_range.mp (List.mem_of_find?_eq_some h)

end Chips

inductive Filling where
  | chip (index : Nat)
  | typed (text : Text)
  deriving DecidableEq, Repr

namespace Filling

def text (chips : List Text) : Filling → Text
  | chip index => chips.getD index []
  | typed text => text

def chip? : Filling → Option Nat
  | chip index => some index
  | typed _ => none

def taken (fillings : List Filling) : List Nat := fillings.filterMap chip?

end Filling

-- Grading uses the answers as authored, in whatever order the chips are shown.
def Question.chips {Generator : Type} (question : Question) (shuffler : Shuffler Generator)
    (shuffle : Bool) (generator : Generator) : List Text × Generator :=
  if shuffle then shuffler.shuffle question.answers generator else (question.answers, generator)

end PlainQuiz
