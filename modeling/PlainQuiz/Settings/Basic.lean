import PlainQuiz.Tools

set_option autoImplicit false

namespace PlainQuiz

open Toml (Value field?)

structure Labels where
  trueLabel : Text
  falseLabel : Text
  correct : Text
  incorrect : Text
  incomplete : Text
  deriving DecidableEq, Repr

def Labels.standard : Labels where
  trueLabel := "True"
  falseLabel := "False"
  correct := "Correct!"
  incorrect := "Incorrect. The correct answer is:"
  incomplete := "Please complete your answer."

structure Settings where
  shuffleChips : Bool
  seed : Option Nat
  labels : Labels
  deriving DecidableEq, Repr

def Settings.standard : Settings := ⟨true, none, .standard⟩

namespace Labels

-- The value for a label, or the standard one where there is none.
def label? (standard : Text) : Option Value → Option Text
  | none => some standard
  | some (.text label) => some label
  | some _ => none

def ofValues? (trueLabel falseLabel correct incorrect incomplete : Option Value) :
    Option Labels := do
  return {
    trueLabel := ← label? Labels.standard.trueLabel trueLabel
    falseLabel := ← label? Labels.standard.falseLabel falseLabel
    correct := ← label? Labels.standard.correct correct
    incorrect := ← label? Labels.standard.incorrect incorrect
    incomplete := ← label? Labels.standard.incomplete incomplete }

def ofValue? : Value → Option Labels
  | .table entries =>
    ofValues? (field? entries "true_label") (field? entries "false_label")
      (field? entries "correct") (field? entries "incorrect") (field? entries "incomplete")
  | .array items => ofValues? items[0]? items[1]? items[2]? items[3]? items[4]?
  | .moment _ => some .standard
  | .text _ | .integer _ | .float _ | .boolean _ => none

end Labels

namespace Settings

def flag? (standard : Bool) : Option Value → Option Bool
  | none => some standard
  | some (.boolean flag) => some flag
  | some _ => none

def seed? : Option Value → Option (Option Nat)
  | none => some none
  | some (.integer seed) => if 0 ≤ seed then some (some seed.toNat) else none
  | some _ => none

def labels? : Option Value → Option Labels
  | none => some .standard
  | some value => Labels.ofValue? value

def ofValue? : Value → Option Settings
  | .table entries => do
    let shuffle := field? entries "shuffle_blank_choices"
    return {
      shuffleChips := ← flag? Settings.standard.shuffleChips shuffle
      seed := ← seed? (field? entries "seed")
      labels := ← labels? (field? entries "labels") }
  | _ => none

end Settings

end PlainQuiz
