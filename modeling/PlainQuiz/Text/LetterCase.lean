import PlainQuiz.Text.Basic
import PlainQuiz.Text.LetterCase.Table

set_option autoImplicit false

namespace PlainQuiz.Text

def isAscii (c : Char) : Bool := c.toNat < 0x80

-- Only the dotted capital I becomes two characters.
def lowerChar (c : Char) : Text :=
  if isAscii c then [c.toLower]
  else if c = 'İ' then ['i', '\u0307']
  else match lowerRuns.find? (·.covers c.toNat) with
    | some run => [Char.ofNat (run.apply c.toNat)]
    | none => [c]

def isCased (c : Char) : Bool :=
  if isAscii c then c.isAlpha else Ranges.contains casedRanges c

def isCaseIgnorable (c : Char) : Bool :=
  if isAscii c then [0x27, 0x2E, 0x3A, 0x5E, 0x60].contains c.toNat
  else Ranges.contains caseIgnorableRanges c

def startsCased (text : Text) : Bool :=
  match text.dropWhile isCaseIgnorable with
  | [] => false
  | c :: _ => isCased c

-- `afterCased` tells whether the last character before `text` that counts for letter case is cased.
def lowerFrom (afterCased : Bool) : Text → Text
  | [] => []
  | c :: rest =>
    let here :=
      if c = 'Σ' then (if afterCased && !startsCased rest then ['ς'] else ['σ'])
      else lowerChar c
    here ++ lowerFrom (if isCaseIgnorable c then afterCased else isCased c) rest

def lower (text : Text) : Text := lowerFrom false text

def sameIgnoringCase (a b : Text) : Bool := lower a == lower b

@[simp] theorem lower_nil : lower [] = [] := rfl

theorem lowerChar_of_isAscii {c : Char} (ascii : isAscii c = true) : lowerChar c = [c.toLower] := by
  simp [lowerChar, ascii]

end PlainQuiz.Text
