import PlainQuiz.Block.Reader
import PlainQuiz.Files.Path
import PlainQuiz.Markdown
import PlainQuiz.Review

set_option autoImplicit false

namespace PlainQuiz

structure Document.Block where
  line : Nat
  result : Except BlockError Question

structure Document where
  path : Path
  blocks : List Document.Block

namespace Document

def isMarkdown (path : Path) : Bool :=
  match Path.extension? path with
  | some ending => [("md" : Path), "markdown"].contains ending
  | none => false

def sources (path : Path) (content : Text) : List Markdown.Block :=
  if isMarkdown path then Markdown.blocks content else [⟨1, content⟩]

def Block.ofSource (block : Markdown.Block) : Block :=
  ⟨block.line, Question.ofBlock block.source⟩

def ofText (path : Path) (content : Text) : Document :=
  ⟨path, (sources path content).map Block.ofSource⟩

def blockEvents (path : Path) (block : Markdown.Block) : List Event :=
  Question.ofBlockEvents block.source ++
    match Question.ofBlock block.source with
    | .ok _ => []
    | .error error => [.blockFailed path block.line error]

def ofTextEvents (path : Path) (content : Text) : List Event :=
  (sources path content).flatMap (blockEvents path)

def Block.question? (block : Block) : Option Question :=
  match block.result with
  | .ok question => some question
  | .error _ => none

def Block.error? (block : Block) : Option (Nat × BlockError) :=
  match block.result with
  | .ok _ => none
  | .error error => some (block.line, error)

def Block.warnings (block : Block) : List (Nat × Warning) :=
  match block.result with
  | .ok question => question.warnings.map (block.line, ·)
  | .error _ => []

def questions (document : Document) : List Question := document.blocks.filterMap (·.question?)

def errors (document : Document) : List (Nat × BlockError) :=
  document.blocks.filterMap (·.error?)

def warnings (document : Document) : List (Nat × Warning) :=
  document.blocks.flatMap (·.warnings)

end Document

end PlainQuiz
