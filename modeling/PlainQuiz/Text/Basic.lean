set_option autoImplicit false

namespace PlainQuiz

abbrev Text := List Char

instance : Coe String Text := ⟨String.toList⟩

namespace Text

def render (text : Text) : String := String.ofList text

def ofNat (n : Nat) : Text := Nat.toDigits 10 n

-- The characters with the Unicode property White_Space.
def isBlank (c : Char) : Bool :=
  let n := c.toNat
  (0x9 ≤ n && n ≤ 0xD) || (0x2000 ≤ n && n ≤ 0x200A) ||
    [0x20, 0x85, 0xA0, 0x1680, 0x2028, 0x2029, 0x202F, 0x205F, 0x3000].contains n

def trimStart (text : Text) : Text := text.dropWhile isBlank

def trimEnd (text : Text) : Text := (text.reverse.dropWhile isBlank).reverse

def trim (text : Text) : Text := trimEnd (trimStart text)

def addLine (text line : Text) : Text :=
  if text = [] then line else text ++ '\n' :: line

def join (separator : Text) (pieces : List Text) : Text := separator.intercalate pieces

-- Letter case is ignored for `A` to `Z` only.
def sameIgnoringAsciiCase (a b : Text) : Bool :=
  a.map Char.toLower == b.map Char.toLower

def consFirst (c : Char) : List Text → List Text
  | [] => [[c]]
  | line :: more => (c :: line) :: more

-- A line ends at a line feed, and one carriage return right before it belongs to the line end.
-- Nothing follows the last line feed unless there is text there.
def lines : Text → List Text
  | [] => []
  | '\r' :: '\n' :: rest => [] :: lines rest
  | '\n' :: rest => [] :: lines rest
  | c :: rest => consFirst c (lines rest)

def splitCommas (text : Text) : List Text := (text.splitOn ',').map trim

inductive NumberError where
  | empty
  | badDigit
  | tooLarge
  deriving DecidableEq, Repr

def NumberError.message : NumberError → Text
  | empty => "cannot parse integer from empty string"
  | badDigit => "invalid digit found in string"
  | tooLarge => "number too large to fit in target type"

-- Digits are read from the left, so the first fault decides which error is reported.
def readDigits (n : Nat) : Text → Except NumberError Nat
  | [] => .ok n
  | c :: rest =>
    if !c.isDigit then .error .badDigit
    else
      let next := 10 * n + (c.toNat - '0'.toNat)
      if UInt64.size ≤ next then .error .tooLarge else readDigits next rest

def readUnsigned (text : Text) : Except NumberError Nat :=
  match text with
  | [] => .error .empty
  | ['+'] => .error .badDigit
  | '+' :: digits => readDigits 0 digits
  | digits => readDigits 0 digits

-- Closed ranges of code points.
abbrev Ranges := List (Nat × Nat)

def Ranges.contains (ranges : Ranges) (c : Char) : Bool :=
  ranges.any fun (first, last) => first ≤ c.toNat && c.toNat ≤ last

end Text

end PlainQuiz
