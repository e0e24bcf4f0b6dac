import PlainQuiz.Document
import PlainQuiz.Tools

set_option autoImplicit false

namespace PlainQuiz

-- The keys of an object are in alphabetical order.
def Choice.toJson (choice : Choice) : Json :=
  .object [("id", .text choice.id), ("text", .text choice.text)]

def Question.toJson (question : Question) : Json :=
  let answers : List (Text × Json) := [("answers", .array (question.answers.map .text))]
  let count : List (Text × Json) :=
    if question.kind = .fillBlank then [("blank_count", .number question.blankCount)] else []
  let others : List (Text × Json) := [("kind", .text question.kind.key),
    ("options", .array (question.options.map (·.toJson))), ("prompt", .text question.prompt)]
  .object (answers ++ count ++ others)

namespace Document

def Block.toJson (block : Block) : Json :=
  match block.result with
  | .ok question => .object [("line", .number block.line), ("question", question.toJson)]
  | .error error => .object [("error", .text error.message), ("line", .number block.line)]

def toJson (document : Document) : Json :=
  .object [("blocks", .array (document.blocks.map (·.toJson))),
    ("path", .text (Path.shown document.path))]

def Block.cells (block : Block) : List Text :=
  match block.result with
  | .ok question =>
    [question.kind.title ++ " (" ++ question.kind.tag ++ ")",
      (Text.lines question.prompt).headD [], Text.join ", " question.optionIds,
      Text.join ", " question.answers]
  | .error error => ["error", error.message, "", ""]

def table (document : Document) : Table where
  header := ["#", "Line", "Kind", "Prompt", "Options", "Answers"]
  rows := document.blocks.zipIdx.map fun (block, index) =>
    Text.ofNat (index + 1) :: Text.ofNat block.line :: block.cells

end Document

end PlainQuiz
