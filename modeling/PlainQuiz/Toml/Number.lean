import PlainQuiz.Toml.Scan
import PlainQuiz.Tools

set_option autoImplicit false

namespace PlainQuiz.Toml

def groupedDigit (base : Nat) : Reader Char
  | '_' :: c :: rest => if isDigitOf base c then some (c, rest) else none
  | text => Reader.char (isDigitOf base) text

def digits (base : Nat) : Reader Text := fun text =>
  match Reader.char (isDigitOf base) text with
  | none => none
  | some (first, rest) =>
    let (more, last) := Reader.many (groupedDigit base) rest
    some (first :: more, last)

def sign : Text → Bool × Text
  | '-' :: rest => (true, rest)
  | '+' :: rest => (false, rest)
  | text => (false, text)

-- A decimal number has no leading zeros.
def wholeDigits : Reader Text
  | '0' :: rest => some (['0'], rest)
  | text => digits 10 text

def integerOf (negative : Bool) (n : Nat) : Option Value :=
  let value : Int := if negative then -n else n
  if -0x8000000000000000 ≤ value ∧ value < 0x8000000000000000 then some (.integer value) else none

def based (base : Nat) : Reader Value := fun text =>
  match digits base text with
  | none => none
  | some (digits, rest) => (integerOf false (ofDigits base digits)).map (·, rest)

def integer : Reader Value
  | '0' :: 'x' :: rest => based 16 rest
  | '0' :: 'o' :: rest => based 8 rest
  | '0' :: 'b' :: rest => based 2 rest
  | text =>
    let (negative, unsigned) := sign text
    match wholeDigits unsigned with
    | none => none
    | some (digits, rest) => (integerOf negative (ofDigits 10 digits)).map (·, rest)

def fraction : Reader Text
  | '.' :: rest => digits 10 rest
  | _ => none

def exponent : Reader Int
  | c :: rest =>
    if c = 'e' ∨ c = 'E' then
      let (negative, unsigned) := sign rest
      (digits 10 unsigned).map fun (digits, last) =>
        ((if negative then -(ofDigits 10 digits : Int) else ofDigits 10 digits), last)
    else none
  | [] => none

-- Rounding to double precision gives infinity from `2 ^ 1024 - 2 ^ 970` on.
def overflows (digits : Nat) (exponent : Int) : Bool :=
  let bound := Nat.pow 2 1024 - Nat.pow 2 970
  let size : Int := (Nat.toDigits 10 digits).length + exponent
  if digits = 0 ∨ size < 300 then false
  else if 320 < size then true
  else if 0 ≤ exponent then bound ≤ digits * Nat.pow 10 exponent.toNat
  else bound * Nat.pow 10 (-exponent).toNat ≤ digits

def floatOf (negative : Bool) (whole fraction : Text) (exponent : Int) : Option Value :=
  let digits := ofDigits 10 (whole ++ fraction)
  let exponent := exponent - fraction.length
  if !negative && overflows digits exponent then none
  else some (.float (.decimal negative digits exponent))

def special (negative : Bool) : Reader Value := fun text =>
  (Reader.literal "inf" (.float (.infinity negative)) text).or
    (Reader.literal "nan" (.float .nan) text)

def float : Reader Value := fun text =>
  let (negative, unsigned) := sign text
  match wholeDigits unsigned with
  | none => special negative unsigned
  | some (whole, rest) =>
    match fraction rest with
    | some (fraction, rest) =>
      let (exponent, last) := (exponent rest).getD (0, rest)
      (floatOf negative whole fraction exponent).map (·, last)
    | none =>
      match exponent rest with
      | some (exponent, last) => (floatOf negative whole [] exponent).map (·, last)
      | none => none

end PlainQuiz.Toml
