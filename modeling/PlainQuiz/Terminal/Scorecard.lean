import PlainQuiz.Terminal.Reply
import PlainQuiz.Tools

set_option autoImplicit false

namespace PlainQuiz

structure Scorecard where
  correct : Nat
  incorrect : Nat
  misconfigured : Nat
  unanswered : Nat
  deriving DecidableEq, Repr

namespace Scorecard

def blank : Scorecard := ⟨0, 0, 0, 0⟩

-- A question without an outcome was not answered.
def record (card : Scorecard) : Option Outcome → Scorecard
  | some .correct => { card with correct := card.correct + 1 }
  | some .incorrect => { card with incorrect := card.incorrect + 1 }
  | some .misconfigured => { card with misconfigured := card.misconfigured + 1 }
  | none => { card with unanswered := card.unanswered + 1 }

def total (card : Scorecard) : Nat :=
  card.correct + card.incorrect + card.misconfigured + card.unanswered

theorem total_record (card : Scorecard) (outcome : Option Outcome) :
    (card.record outcome).total = card.total + 1 := by
  cases outcome with
  | none => simp only [record, total]; omega
  | some outcome => cases outcome <;> simp only [record, total] <;> omega

-- Of two equally near whole numbers the even one.
def roundDiv (numerator denominator : Nat) : Nat :=
  let floor := numerator / denominator
  let twice := 2 * (numerator % denominator)
  if twice < denominator ∨ (twice = denominator ∧ floor % 2 = 0) then floor else floor + 1

def tenths (value : Float) : Nat :=
  let bits := value.toBits.toNat
  let exponent := (bits >>> 52) % 0x800
  let fraction := bits % (1 <<< 52)
  let mantissa := if exponent = 0 then fraction else fraction + (1 <<< 52)
  -- The value is `mantissa * 2 ^ (max exponent 1 - 1075)`.
  let scale := max exponent 1
  if 1075 ≤ scale then (10 * mantissa) <<< (scale - 1075)
  else roundDiv (10 * mantissa) (1 <<< (1075 - scale))

def percentage (card : Scorecard) : Float :=
  if card.total = 0 then 0 else Float.ofNat card.correct / Float.ofNat card.total * 100

def score (card : Scorecard) : Text :=
  let tenths := tenths card.percentage
  Text.ofNat (tenths / 10) ++ "." ++ Text.ofNat (tenths % 10) ++ "%"

def table (card : Scorecard) : Table where
  header := ["Correct", "Incorrect", "Unanswered", "Not gradable", "Score"]
  rows := [[Text.ofNat card.correct, Text.ofNat card.incorrect, Text.ofNat card.unanswered,
    Text.ofNat card.misconfigured, card.score]]

end Scorecard

end PlainQuiz
