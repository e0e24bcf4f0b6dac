import PlainQuiz.Text.LetterCase

set_option autoImplicit false

namespace PlainQuiz.Markdown

structure Block where
  line : Nat
  source : Text
  deriving DecidableEq, Repr

def backtick : Char := '\x60'

def fenceMark : Text := List.replicate 3 backtick

def opensFence (line : Text) : Bool := fenceMark.isPrefixOf (Text.trim line)

def closesFence (line : Text) : Bool := Text.trim line == fenceMark

def fenceTag (line : Text) : Text :=
  Text.lower (Text.trim ((Text.trim line).dropWhile (· == backtick)))

def opensQuiz (line : Text) : Bool := fenceTag line == ("quiz" : Text)

-- Empty lines at the front of a body do not count.
def bodyText (lines : List Text) : Text := Text.join ['\n'] (lines.dropWhile (· = []))

-- A fence that is open, with the body read so far, its latest line first.
structure Fence where
  isQuiz : Bool
  line : Nat
  body : List Text
  deriving DecidableEq, Repr

def Fence.block (fence : Fence) : List Block :=
  if fence.isQuiz then [⟨fence.line, bodyText fence.body.reverse⟩] else []

def Fence.addLine (fence : Fence) (line : Text) : Fence :=
  { fence with body := line :: fence.body }

def scan (number : Nat) : Option Fence → List Text → List Block
  | none, [] => []
  | some fence, [] => fence.block
  | none, line :: rest =>
    if opensFence line then scan (number + 1) (some ⟨opensQuiz line, number + 1, []⟩) rest
    else scan (number + 1) none rest
  | some fence, line :: rest =>
    if closesFence line then fence.block ++ scan (number + 1) none rest
    else scan (number + 1) (some (fence.addLine line)) rest

def blocks (markdown : Text) : List Block := scan 1 none (Text.lines markdown)

end PlainQuiz.Markdown
