import PlainQuiz.Toml.Scan

set_option autoImplicit false

namespace PlainQuiz.Toml

def quote : Char := '\x22'

def apostrophe : Char := '\x27'

def backslash : Char := '\x5c'

def numbered (count : Nat) : Reader Text := fun text =>
  let digits := text.take count
  let n := ofDigits 16 digits
  if digits.length = count ∧ digits.all (isDigitOf 16) ∧ n.isValidChar then
    some ([Char.ofNat n], text.drop count)
  else none

def escape : Reader Text
  | 'b' :: rest => some (['\x08'], rest)
  | 'f' :: rest => some (['\x0c'], rest)
  | 'n' :: rest => some (['\n'], rest)
  | 'r' :: rest => some (['\r'], rest)
  | 't' :: rest => some (['\t'], rest)
  | 'u' :: rest => numbered 4 rest
  | 'U' :: rest => numbered 8 rest
  | c :: rest => if c = quote ∨ c = backslash then some ([c], rest) else none
  | [] => none

def basicPart : Reader Text
  | [] => none
  | c :: rest =>
    if c = backslash then escape rest
    else if c ≠ quote ∧ isPlain c then some ([c], rest)
    else none

def literalPart : Reader Text
  | [] => none
  | c :: rest => if c ≠ apostrophe ∧ isPlain c then some ([c], rest) else none

-- A backslash at the end of a line takes the line break with it and all blank text after.
def joinedLines (text : Text) : Option Text :=
  (newline? (skipBlanks text)).map fun rest =>
    (Reader.many (fun text =>
      match newline? text with
      | some rest => some ((), rest)
      | none => some ((), skipBlanks text)) rest).2

def longPart (mark : Char) (part : Reader Text) : Reader Text := fun text =>
  match newline? text with
  | some rest => some (['\n'], rest)
  | none =>
    match text with
    | [] => none
    | c :: rest =>
      if c = mark then
        if (List.replicate 3 mark).isPrefixOf text then none else some ([mark], rest)
      else part text

def longBasicPart : Reader Text
  | [] => none
  | c :: rest =>
    match if c = backslash then joinedLines rest else none with
    | some last => some ([], last)
    | none => basicPart (c :: rest)

-- A line break right behind the opening marks is dropped; up to two marks may stand before the
-- closing ones.
def longText (mark : Char) (part : Reader Text) : Reader Text := fun text =>
  let (parts, rest) := Reader.many (longPart mark part) ((newline? text).getD text)
  let marks := (rest.takeWhile (· = mark)).length
  if 3 ≤ marks ∧ marks ≤ 5 then
    some (parts.flatten ++ List.replicate (marks - 3) mark, rest.drop marks)
  else none

def shortText (mark : Char) (part : Reader Text) : Reader Text := fun text =>
  match Reader.many part text with
  | (parts, c :: rest) => if c = mark then some (parts.flatten, rest) else none
  | (_, []) => none

def basicText : Reader Text
  | c :: rest => if c = quote then shortText quote basicPart rest else none
  | [] => none

def literalText : Reader Text
  | c :: rest => if c = apostrophe then shortText apostrophe literalPart rest else none
  | [] => none

def quoted : Reader Text := fun text =>
  match (List.replicate 3 quote).isPrefixOf? text,
    (List.replicate 3 apostrophe).isPrefixOf? text with
  | some rest, _ => longText quote longBasicPart rest
  | _, some rest => longText apostrophe literalPart rest
  | none, none => (basicText text).or (literalText text)

end PlainQuiz.Toml
