import PlainQuiz.Block.Line
import PlainQuiz.Files.Path
import PlainQuiz.Question

set_option autoImplicit false

namespace PlainQuiz

inductive Event where
  | moved (before after : Block.Mode)
  | strayLine (line : Text)
  | unknownKind (tag : Text)
  | unknownTruth (token : Text)
  | graded (kind : Kind) (correct : Bool)
  | blockFailed (path : Path) (line : Nat) (error : BlockError)
  | fileSkipped (path : Path)
  deriving DecidableEq, Repr

namespace Event

inductive Level where
  | trace
  | debug
  | warning
  deriving DecidableEq, Repr

inductive Detail where
  | text (value : Text)
  | number (value : Nat)
  | flag (value : Bool)
  deriving DecidableEq, Repr

def level : Event → Level
  | moved _ _ | strayLine _ => .trace
  | unknownKind _ | unknownTruth _ | graded _ _ | blockFailed _ _ _ => .debug
  | fileSkipped _ => .warning

def message : Event → Text
  | moved _ _ => "parse state"
  | strayLine _ => "ignoring line outside any context"
  | unknownKind _ => "unknown question type, using multiple choice"
  | unknownTruth _ => "unrecognized true/false answer, using false"
  | graded _ _ => "graded response"
  | blockFailed _ _ error => "quiz block failed: " ++ error.message
  | fileSkipped path =>
    "skipping " ++ Path.shown path ++ ": failed to read quiz file: " ++ Path.shown path

def details : Event → List (Text × Detail)
  | moved before after => [("from", .text before.label), ("to", .text after.label)]
  | strayLine line => [("line", .text line)]
  | unknownKind tag => [("tag", .text tag)]
  | unknownTruth token => [("token", .text token)]
  | graded kind correct => [("kind", .text kind.title), ("correct", .flag correct)]
  | blockFailed path line _ => [("path", .text (Path.shown path)), ("line", .number line)]
  | fileSkipped _ => []

end Event

def Kind.ofTagEvents (tag : Text) : List Event :=
  match Kind.ofTag? tag with
  | some _ => []
  | none => [.unknownKind (Text.lower (Text.trim tag))]

namespace Answer

def truthEvents (text : Text) : List Event :=
  if isTruthToken text then [] else [.unknownTruth (truthToken text)]

def interpretEvents (kind : Kind) (text : Text) : List Event :=
  if kind = .trueFalse then truthEvents text else []

end Answer

end PlainQuiz
