import PlainQuiz.Text.Basic
import PlainQuiz.Text.Width.Table

set_option autoImplicit false

namespace PlainQuiz.Text

def isZeroWidth (c : Char) : Bool := Ranges.contains zeroWidthRanges c

def isWide (c : Char) : Bool := Ranges.contains wideRanges c

-- The Khmer sign for "and so on" is as wide as three letters.
def beyyal : Char := '\u17d8'

def charWidth (c : Char) : Nat :=
  if c = beyyal then 3
  else if isZeroWidth c then 0
  else if isWide c then 2
  else 1

def joiner : Char := '\u200d'

inductive Selector where
  | picture
  | text
  -- A quotation mark in the style of East Asian text.
  | wideQuote
  deriving DecidableEq, Repr

def Selector.ofChar? (c : Char) : Option Selector :=
  if c = '\ufe0f' then some picture
  else if c = '\ufe0e' then some text
  else if c = '\ufe01' then some wideQuote
  else none

def isSelectable (c : Char) : Bool := Ranges.contains selectableRanges c

def isPicture (c : Char) : Bool := Ranges.contains pictureRanges c

def isEnclosedIdeograph (c : Char) : Bool := 0x1F200 ≤ c.toNat && c.toNat ≤ 0x1F2FF

def isTextual (c : Char) : Bool := isSelectable c && isPicture c && !isEnclosedIdeograph c

def isQuote (c : Char) : Bool := ['\u2018', '\u2019', '\u201c', '\u201d'].contains c

def isSkinTone (c : Char) : Bool := 0x1F3FB ≤ c.toNat && c.toNat ≤ 0x1F3FF

def takesSkinTone (c : Char) : Bool := Ranges.contains tonedRanges c

-- Two letters are a flag.
def isFlagLetter (c : Char) : Bool := 0x1F1E6 ≤ c.toNat && c.toNat ≤ 0x1F1FF

def isTagLetter (c : Char) : Bool := 0xE0061 ≤ c.toNat && c.toNat ≤ 0xE007A

def isTagDigit (c : Char) : Bool := 0xE0030 ≤ c.toNat && c.toNat ≤ 0xE0039

def isLam (c : Char) : Bool :=
  Ranges.contains [(0x644, 0x644), (0x6B5, 0x6B8), (0x76A, 0x76A), (0x8A6, 0x8A6),
    (0x8C7, 0x8C7)] c

def isAlef (c : Char) : Bool :=
  Ranges.contains [(0x622, 0x623), (0x625, 0x625), (0x627, 0x627), (0x671, 0x673), (0x675, 0x675),
    (0x773, 0x774), (0x870, 0x882)] c

def isTransparent (c : Char) : Bool := isZeroWidth c && !Ranges.contains partingRanges c

def isIgnoredMark (c : Char) : Bool :=
  Ranges.contains [(0x34F, 0x34F), (0x17B4, 0x17B5), (0x180B, 0x180D), (0x180F, 0x180F),
    (0xFE00, 0xFE0F), (0xE0100, 0xE01EF)] c

def isTifinaghConsonant (c : Char) : Bool :=
  Ranges.contains [(0x2D31, 0x2D65), (0x2D6F, 0x2D6F)] c

-- Khmer letters that the sign coeng puts below the letter before it.
def isSubscriptLetter (c : Char) : Bool :=
  Ranges.contains [(0x1780, 0x1782), (0x1784, 0x1787), (0x1789, 0x178C), (0x178E, 0x1793),
    (0x1795, 0x1798), (0x179B, 0x179D), (0x17A0, 0x17A0), (0x17A2, 0x17A2), (0x17A7, 0x17A7),
    (0x17AB, 0x17AC), (0x17AF, 0x17AF)] c

end PlainQuiz.Text
