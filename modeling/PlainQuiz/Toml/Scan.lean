import PlainQuiz.Text.Basic

set_option autoImplicit false

namespace PlainQuiz.Toml

abbrev Reader (α : Type) := Text → Option (α × Text)

namespace Reader

variable {α : Type}

def many (item : Reader α) (text : Text) : List α × Text :=
  match item text with
  | none => ([], text)
  | some (x, rest) =>
    if rest.length < text.length then
      let (more, last) := many item rest
      (x :: more, last)
    else ([], text)
termination_by text.length

def separated (item : Reader α) (separator : Char) (text : Text) : List α × Text :=
  let next : Reader α := fun text =>
    match text with
    | c :: rest => if c = separator then item rest else none
    | [] => none
  match item text with
  | none => ([], text)
  | some (x, rest) =>
    let (more, last) := many next rest
    (x :: more, last)

def char (accepts : Char → Bool) : Reader Char
  | c :: rest => if accepts c then some (c, rest) else none
  | [] => none

def literal (word : Text) (value : α) : Reader α := fun text =>
  (word.isPrefixOf? text).map (value, ·)

end Reader

def digitValue (c : Char) : Nat :=
  if c.isDigit then c.toNat - '0'.toNat else c.toLower.toNat - 'a'.toNat + 10

def isDigitOf (base : Nat) (c : Char) : Bool :=
  (c.isDigit || ('a' ≤ c.toLower && c.toLower ≤ 'f')) && digitValue c < base

def ofDigits (base : Nat) (digits : Text) : Nat :=
  digits.foldl (fun n c => base * n + digitValue c) 0

def isBlank (c : Char) : Bool := c = ' ' || c = '\t'

-- What may stand in a comment: tabs, and all that is no control character of ASCII.
def isPlain (c : Char) : Bool := c = '\t' || (0x20 ≤ c.toNat && c.toNat ≠ 0x7F)

def skipBlanks (text : Text) : Text := text.dropWhile isBlank

def newline? : Text → Option Text
  | '\n' :: rest => some rest
  | '\r' :: '\n' :: rest => some rest
  | _ => none

def skipComment : Text → Text
  | '#' :: rest => rest.dropWhile isPlain
  | text => text

-- The last line needs no newline.
def lineEnd (text : Text) : Option Text :=
  match skipComment (skipBlanks text) with
  | [] => some []
  | rest => newline? rest

-- A line break or blanks, possibly after a comment.
def layoutPart : Reader Unit := fun text =>
  match newline? (skipComment text) with
  | some rest => some ((), rest)
  | none => some ((), skipBlanks text)

def skipLayout (text : Text) : Text := (Reader.many layoutPart text).2

end PlainQuiz.Toml
