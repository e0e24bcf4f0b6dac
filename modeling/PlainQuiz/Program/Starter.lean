import PlainQuiz.Files.Tree
import PlainQuiz.Markdown
import PlainQuiz.Program.Result
import PlainQuiz.Settings.Load

set_option autoImplicit false

namespace PlainQuiz.Starter

def quizDirectory : Path := "quizzes"

def quizPath : Path := Path.join quizDirectory "example.md"

def settings : Text := Result.lines [
  "# quizblock configuration", "", "shuffle_blank_choices = true", "# seed = 42", "",
  "[labels]", "true_label = \"True\"", "false_label = \"False\"", "correct = \"Correct!\"",
  "incorrect = \"Incorrect. The correct answer is:\"",
  "incomplete = \"Please complete your answer.\""]

def fenced (lines : List Text) : Text :=
  Result.lines ([[], "```quiz"] ++ lines ++ [Markdown.fenceMark])

def quiz : Text :=
  Result.lines ["# Example quiz", "",
    "Quiz blocks live in fenced code blocks tagged `quiz`."] ++
  fenced ["-- Type mc", "-- Question What is 2+2?", "-- A", "3", "-- B", "4", "-- Answer B"] ++
  fenced ["-- Type tf", "-- Question Rust has a garbage collector.", "-- Answer false"] ++
  fenced ["-- Type text", "-- Question Which keyword declares an immutable binding?",
    "-- Answer let"] ++
  fenced ["-- Type fb", "-- Question [blank] + [blank] = 4", "-- Answer 1, 3"] ++
  fenced ["-- Type sort", "-- Question Put the build steps in order.", "-- A", "Compile",
    "-- B", "Write code", "-- C", "Run tests", "-- Answer B, A, C"]

def offer (files : Files) (path : Path) (content : Text) : Text × List Change :=
  if files.exists? path then (Path.shown path ++ " already exists, skipping.", [])
  else ("Created " ++ Path.shown path, [.write path content])

def nextSteps : Text := Result.lines ["", "Next steps:",
  "  1. Edit quizzes/example.md or add your own quiz blocks",
  "  2. Run: quizblock validate --quiz quizzes/example.md",
  "  3. Run: quizblock run --quiz quizzes/example.md"]

def run (files : Files) : Result :=
  let (settingsNote, settingsChange) := offer files Settings.localPath settings
  let blocked : Bool := match files.find quizDirectory with
    | .ok tree => !tree.isDirectory
    | .error _ => false
  if blocked then
    { Result.failure (Result.line settingsNote) FileError.alreadyExists.message with
      changes := settingsChange }
  else
    let (quizNote, quizChange) := offer files quizPath quiz
    { Result.success (Result.lines [settingsNote, quizNote] ++ nextSteps) with
      changes := settingsChange ++ [.createDirectory quizDirectory] ++ quizChange }

end PlainQuiz.Starter
