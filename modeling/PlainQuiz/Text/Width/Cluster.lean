import PlainQuiz.Text.Width.Character

set_option autoImplicit false

namespace PlainQuiz.Text

inductive Ligature where
  | hebrewLamed
  | bugineseYa
  -- The vowel before a joined ya.
  | bugineseVowel
  | tifinaghConsonant
  -- The sign that joins the consonants around it.
  | tifinaghJoiner
  | lisuTone
  | turkicI
  | khmerSubscript
  deriving DecidableEq, Repr

namespace Ligature

def ofChar? (c : Char) : Option Ligature :=
  if c = '\u05dc' then some hebrewLamed
  else if c = '\u1a10' then some bugineseYa
  else if isTifinaghConsonant c then some tifinaghConsonant
  else if c = '\ua4fc' ∨ c = '\ua4fd' then some lisuTone
  else if c.toNat = 0x10C03 then some turkicI
  else if isSubscriptLetter c then some khmerSubscript
  else none

end Ligature

inductive Head where
  | other
  | picture
  | skinTone
  | flagLetter
  | flagLetters
  -- A joiner and a picture, and what can stand right before them.
  | joinedPicture
  | joinedKeycap
  | joinedFlagLetter
  | joinedFlags
  | joinedFlagsAndLetter
  | joinedTags (letters digits : Nat)
  -- Vowel signs of Kirat Rai that are parts of other vowel signs.
  | kiratE
  | kiratAI
  | alef
  -- The flag tells whether a joiner stands before the letter.
  | ligature (letter : Ligature) (joined : Bool)
  deriving DecidableEq, Repr

namespace Head

def ofChar (c : Char) : Head :=
  if isSkinTone c then skinTone
  else if isFlagLetter c then flagLetter
  else if isPicture c then picture
  else if c.toNat = 0x16D67 then kiratE
  else if c.toNat = 0x16D68 then kiratAI
  else if isAlef c then alef
  else match Ligature.ofChar? c with
    | some letter => ligature letter false
    | none => other

-- Ligatures come about whether or not variation selectors stand between the letters.
def keepsSelectors : Head → Bool
  | alef | ligature _ _ => true
  | _ => false

-- Before these, a character that is selected as a picture takes no columns of its own.
def awaitsPicture : Head → Bool
  | joinedPicture | joinedKeycap => true
  | _ => false

end Head

-- A character that takes up columns which the text already has adds a negative number.
abbrev Joining := Option (Int × Head)

def Ligature.join (joined : Bool) (c : Char) : Ligature → Joining
  | hebrewLamed => if joined && c == '\u05d0' then some (0, .other) else none
  | bugineseYa =>
    if joined && c == '\u1a17' then some (0, .ligature bugineseVowel true) else none
  | bugineseVowel => if c = '\u1a15' then some (0, .other) else none
  | tifinaghConsonant =>
    if c = '\u2d7f' then some (1, .ligature tifinaghJoiner true)
    else if joined && isTifinaghConsonant c then some (0, .other)
    else none
  | tifinaghJoiner => if isTifinaghConsonant c then some (-1, .other) else none
  | lisuTone => if '\ua4f8' ≤ c ∧ c ≤ '\ua4fb' then some (0, .other) else none
  | turkicI => if joined && c.toNat == 0x10C32 then some (0, .other) else none
  | khmerSubscript => if c = '\u17d2' then some (-1, .other) else none

namespace Head

-- A flag of a region is named by its letters, or by three digits and up to four letters.
def joinTag (letters digits : Nat) (c : Char) : Joining :=
  if isTagLetter c && digits == 0 && letters < 6 then some (0, joinedTags (letters + 1) 0)
  else if isTagDigit c && digits < 3 && letters ≤ 4 then some (0, joinedTags letters (digits + 1))
  else if c.toNat = 0x1F3F4 ∧ (digits = 3 ∨ (digits = 0 ∧ 3 ≤ letters)) then some (0, picture)
  else none

def joinPicture (c : Char) : Joining :=
  if c = '\u20e3' then some (0, joinedKeycap)
  else if isFlagLetter c then some (1, joinedFlagLetter)
  else if isSkinTone c then some (0, skinTone)
  else if c.toNat = 0xE007F then some (0, joinedTags 0 0)
  else if isPicture c then some (0, picture)
  else none

def joinVowel (e : Bool) (c : Char) : Joining :=
  if c.toNat = 0x16D63 then some (0, other)
  else if e && c.toNat == 0x16D67 then some (0, kiratAI)
  else if e && c.toNat == 0x16D68 then some (1, kiratE)
  else if e && c.toNat == 0x16D69 then some (0, other)
  else none

def join (c : Char) : Head → Joining
  | other | joinedKeycap => none
  | picture => if c = joiner then some (0, joinedPicture) else none
  | skinTone =>
    if takesSkinTone c then some (0, picture)
    else if c = joiner then some (0, joinedPicture)
    else none
  | flagLetter => if isFlagLetter c then some (1, flagLetters) else none
  | flagLetters =>
    if isFlagLetter c then some (1, flagLetters)
    else if c = joiner then some (0, joinedPicture)
    else none
  | joinedPicture => joinPicture c
  | joinedFlagLetter => if isFlagLetter c then some (-1, joinedFlags) else none
  | joinedFlags =>
    if isFlagLetter c then some (3, joinedFlagsAndLetter)
    else if c = joiner then some (0, joinedPicture)
    else none
  | joinedFlagsAndLetter =>
    if isFlagLetter c then some (-1, joinedFlags)
    else if c = joiner then some (0, joinedPicture)
    else none
  | joinedTags letters digits => joinTag letters digits c
  | kiratE => joinVowel true c
  | kiratAI => joinVowel false c
  | alef =>
    if isLam c then some (0, other) else if isTransparent c then some (0, alef) else none
  | ligature letter joined =>
    if c = joiner then some (0, ligature letter true)
    else if isIgnoredMark c then some (0, ligature letter joined)
    else letter.join joined c

end Head

-- The selectors are those before the head that may still have an effect, none of them twice.
structure Front where
  selectors : List Selector
  head : Head
  deriving DecidableEq, Repr

namespace Front

def ofHead (head : Head) : Front := ⟨[], head⟩

-- Only before a ligature does a selector leave those behind it in effect, and even there a picture
-- is asked for by the selector right behind the character alone.
def select (front : Front) (selector : Selector) : Front :=
  if front.head.keepsSelectors then
    ⟨(front.selectors.erase .picture).insert selector, front.head⟩
  else if selector = .picture ∧ front.head.awaitsPicture then ⟨[selector], front.head⟩
  else ⟨[selector], .other⟩

-- A selector without effect ends a row of joined pictures.
def unselect (front : Front) : Front :=
  if front.selectors = [] ∨ front.head.keepsSelectors then front else ofHead .other

def applySelectors (front : Front) (c : Char) : Joining :=
  if front.selectors.contains .picture && isSelectable c then
    some (if front.head.awaitsPicture then 0 else 2, .picture)
  else if front.selectors.contains .text && isTextual c then some (1, .other)
  else if front.selectors.contains .wideQuote && isQuote c then some (2, .other)
  else none

def cons (front : Front) (c : Char) : Int × Front :=
  match front.applySelectors c with
  | some (columns, head) => (columns, ofHead head)
  | none =>
    let front := front.unselect
    match Selector.ofChar? c with
    | some selector => (0, front.select selector)
    | none =>
      let (columns, head) := (front.head.join c).getD (charWidth c, Head.ofChar c)
      (columns, ofHead head)

end Front

end PlainQuiz.Text
