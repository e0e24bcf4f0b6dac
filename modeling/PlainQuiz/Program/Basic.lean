import PlainQuiz.Files.Quizzes
import PlainQuiz.Program.Command
import PlainQuiz.Program.Listing
import PlainQuiz.Program.Starter
import PlainQuiz.Terminal.Session

set_option autoImplicit false

namespace PlainQuiz

structure World (Generator : Type) where
  files : Files
  environment : Environment
  input : Input
  tools : Tools Generator
  -- Where the orders of a session without a seed come from.
  unseeded : Generator

def World.settings {Generator : Type} (world : World Generator) (asked : Option Path) :
    Except SettingsError Settings :=
  Settings.load world.tools.readToml? world.files world.environment asked

def World.session {Generator : Type} (world : World Generator) (settings : Settings) :
    Session Generator :=
  .start world.tools.shuffler settings world.unseeded world.input

namespace Program

variable {Generator : Type}

open Result (line lines)

def numbered (number : Nat) (label message : Text) : Text :=
  "  [line " ++ Text.ofNat number ++ "] " ++ label ++ ": " ++ message

def documentReport (document : Document) : Text :=
  line ("Quiz file: " ++ Path.shown document.path ++ " (" ++ Text.ofNat document.blocks.length ++
      " blocks)") ++
    lines (document.errors.map fun (number, error) => numbered number "ERROR" error.message) ++
    lines (document.warnings.map fun (number, warning) =>
      numbered number "WARNING" warning.message)

def validate (files : Files) (quiz : Path) (strict : Bool) : Result :=
  match files.load quiz with
  | .error error => .failure [] error.message
  | .ok loaded =>
    let errors := (loaded.documents.flatMap (·.errors)).length
    let warnings := (loaded.documents.flatMap (·.warnings)).length
    let summary : Text :=
      if errors = 0 ∧ warnings = 0 then line "All quiz blocks valid."
      else line ("\n" ++ Text.ofNat errors ++ " error(s), " ++ Text.ofNat warnings ++
        " warning(s) found.")
    let output := loaded.documents.flatMap documentReport ++ summary
    if errors ≠ 0 then .failure output (Text.ofNat errors ++ " quiz block(s) failed to parse")
    else if strict ∧ warnings ≠ 0 then
      .failure output (Text.ofNat warnings ++ " warning(s) reported in strict mode")
    else .success output

def list (tools : Tools Generator) (files : Files) (quiz : Path) (format : Text) : Result :=
  match files.load quiz with
  | .error error => .failure [] error.message
  | .ok loaded =>
    if format = "json" then
      .success (line (tools.print (.array (loaded.documents.map (·.toJson)))))
    else if format = "text" then
      .success (lines (loaded.documents.flatMap fun document =>
        [Path.shown document.path, tools.draw document.table]))
    else .failure [] ("Unknown format: " ++ format)

def questionToCheck (document : Document) (quiz : Path) (block : Nat) : Except Text Question :=
  match document.blocks[block - 1]? with
  | none =>
    .error (Path.shown quiz ++ " has " ++ Text.ofNat document.blocks.length ++
      " quiz block(s), no block " ++ Text.ofNat block)
  | some parsed =>
    match parsed.result with
    | .ok question => .ok question
    | .error error =>
      .error ("quiz block " ++ Text.ofNat block ++ " (line " ++ Text.ofNat parsed.line ++ "): " ++
        error.message)

def gradeReply (question : Question) (labels : Labels) (reply : Text) (mustBeCorrect : Bool) :
    Result :=
  match question.response labels reply with
  | .error error => .failure [] error.message
  | .ok response =>
    let (outcome, message) := labels.verdict question (question.grade response)
    let failed := mustBeCorrect && outcome != some .correct
    { Result.success (line message) with exitCode := if failed then 1 else 0 }

def documentAt (files : Files) (quiz : Path) : Except Text Document :=
  (files.document quiz).mapError LoadError.message

def check (world : World Generator) (quiz : Path) (block : Nat) (reply : Text)
    (mustBeCorrect : Bool) (settings : Option Path) : Result :=
  if block = 0 then .failure [] "block numbers start at 1"
  else match world.settings settings with
    | .error error => .failure [] error.message
    | .ok settings =>
      match (documentAt world.files quiz).bind (questionToCheck · quiz block) with
      | .error message => .failure [] message
      | .ok question => gradeReply question settings.labels reply mustBeCorrect

def takeQuiz (world : World Generator) (settings : Settings) (questions : List Question) :
    Result :=
  let report := (world.session settings).quiz settings 1 questions.length questions
  match report.ending with
  | .unreadable => .failure report.said.text Session.unreadableMessage
  | ending =>
    { Result.success report.said.text with
      closing := line (world.tools.draw report.card.table)
      awaitsInput := ending = .exhausted }

def skipped (document : Document) : Text :=
  lines (document.errors.map fun (number, error) =>
    "Skipping quiz block at line " ++ Text.ofNat number ++ ": " ++ error.message)

def run (world : World Generator) (quiz : Path) (seed : Option Nat) (settings : Option Path) :
    Result :=
  match world.settings settings with
  | .error error => .failure [] error.message
  | .ok settings =>
    match documentAt world.files quiz with
    | .error message => .failure [] message
    | .ok document =>
      let result := match document.questions with
        | [] => Result.failure [] ("no valid quiz blocks in " ++ Path.shown quiz)
        | questions =>
          takeQuiz world { settings with seed := seed.or settings.seed } questions
      { result with errors := skipped document ++ result.errors }

def execute (world : World Generator) : Command → Result
  | .run quiz seed settings => run world quiz seed settings
  | .check quiz block reply mustBeCorrect settings =>
    check world quiz block reply mustBeCorrect settings
  | .validate quiz strict => validate world.files quiz strict
  | .list quiz format => list world.tools world.files quiz format
  | .setUp => Starter.run world.files
  | .version => .success (line "quizblock 0.1.0")

def paths (environment : Environment) : Command → List Path
  | .run quiz _ settings | .check quiz _ _ _ settings =>
    quiz :: Settings.paths environment settings
  | .validate quiz _ | .list quiz _ => [quiz]
  | .setUp => [Settings.localPath, Starter.quizPath]
  | .version => []

def start (world : World Generator) (arguments : List Text) : Result :=
  match Command.ofArguments? arguments with
  | some command => execute world command
  | none => .usage

end Program

end PlainQuiz
