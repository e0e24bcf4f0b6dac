import PlainQuiz.Files.Tree

set_option autoImplicit false

namespace PlainQuiz

inductive Change where
  | createDirectory (path : Path)
  | write (path : Path) (content : Text)
  deriving DecidableEq, Repr

def Files.apply (files : Files) : Change → Files
  | .createDirectory path =>
    { files with root := files.root.addDirectory (files.here ++ Path.components path) }
  | .write path content =>
    { files with
      root := files.root.addFile (files.here ++ Path.components path) content.render.toUTF8 }

structure Result where
  exitCode : Nat
  output : Text
  -- What follows the output once nothing more is read.
  closing : Text
  errors : Text
  -- Whether more input would have been read.
  awaitsInput : Bool
  changes : List Change
  deriving DecidableEq, Repr

namespace Result

def line (text : Text) : Text := text ++ ['\n']

def lines (texts : List Text) : Text := texts.flatMap line

def success (output : Text) : Result := ⟨0, output, [], [], false, []⟩

def failure (output message : Text) : Result :=
  ⟨1, output, [], line ("Error: " ++ message), false, []⟩

def usage : Result :=
  ⟨2, [], [], lines ["Usage: quizblock <COMMAND>", "", "Commands:",
    "  run       Take a quiz interactively:  --quiz <FILE> [--seed <N>] [--config <FILE>]",
    "  check     Grade a single response:    --quiz <FILE> --response <TEXT> [--block <N>]",
    "                                        [--fail-on-incorrect] [--config <FILE>]",
    "  validate  Validate quiz files:        --quiz <PATH> [--strict]",
    "  show      Print parsed quiz blocks:   --quiz <PATH> [--format text|json]",
    "  init      Create starter config and example quiz"], false, []⟩

end Result

end PlainQuiz
