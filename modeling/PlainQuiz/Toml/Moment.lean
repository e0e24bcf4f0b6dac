import PlainQuiz.Toml.Scan
import PlainQuiz.Tools

set_option autoImplicit false

namespace PlainQuiz.Toml

def part (count least most : Nat) : Reader Nat := fun text =>
  let digits := text.take count
  let n := ofDigits 10 digits
  if digits.length = count ∧ digits.all (isDigitOf 10) ∧ least ≤ n ∧ n ≤ most then
    some (n, text.drop count)
  else none

def mark (accepts : Char → Bool) (text : Text) : Option Text :=
  (Reader.char accepts text).map (·.2)

def daysIn (year month : Nat) : Nat :=
  if month = 2 then
    if year % 4 = 0 ∧ (year % 100 ≠ 0 ∨ year % 400 = 0) then 29 else 28
  else if month ∈ [4, 6, 9, 11] then 30
  else 31

def date (text : Text) : Option Text := do
  let (year, rest) ← part 4 0 9999 text
  let rest ← mark (· = '-') rest
  let (month, rest) ← part 2 1 12 rest
  let rest ← mark (· = '-') rest
  let (_, rest) ← part 2 1 (daysIn year month) rest
  return rest

def secondFraction (text : Text) : Text :=
  match text with
  | '.' :: rest => if (rest.takeWhile Char.isDigit) = [] then text else rest.dropWhile Char.isDigit
  | _ => text

def time (text : Text) : Option Text := do
  let (_, rest) ← part 2 0 23 text
  let rest ← mark (· = ':') rest
  let (_, rest) ← part 2 0 59 rest
  let rest ← mark (· = ':') rest
  -- A minute may have a leap second.
  let (_, rest) ← part 2 0 60 rest
  return secondFraction rest

def offset (text : Text) : Option Text :=
  (mark (fun c => c = 'Z' || c = 'z') text).or do
    let rest ← mark (fun c => c = '+' || c = '-') text
    let (_, rest) ← part 2 0 23 rest
    let rest ← mark (· = ':') rest
    let (_, rest) ← part 2 0 59 rest
    return rest

def timeOfDate (text : Text) : Option Text := do
  let rest ← mark (fun c => c = 'T' || c = 't' || c = ' ') text
  let rest ← time rest
  return (offset rest).getD rest

def moment : Reader Value := fun text =>
  let rest? := match date text with
    | some rest => some ((timeOfDate rest).getD rest)
    | none => time text
  rest?.map fun rest => (.moment (text.take (text.length - rest.length)), rest)

end PlainQuiz.Toml
