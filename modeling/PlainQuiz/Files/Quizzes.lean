import PlainQuiz.Document
import PlainQuiz.Files.Tree

set_option autoImplicit false

namespace PlainQuiz

def Path.isQuiz (path : Path) : Bool :=
  match extension? path with
  | some ending => [("quiz" : Path), "md", "markdown"].contains ending
  | none => false

structure QuizFile where
  path : Path
  bytes : ByteArray

namespace FileTree

mutual

def quizFiles (path : Path) : FileTree → List QuizFile
  | file bytes => if Path.isQuiz path then [⟨path, bytes⟩] else []
  | directory entries =>
    ((quizFilesIn path entries).mergeSort fun a b => Path.Name.isAtMost a.1 b.1).flatMap (·.2)

def quizFilesIn (path : Path) : List (Path.Name × FileTree) → List (Path.Name × List QuizFile)
  | [] => []
  | (name, tree) :: rest =>
    (name, quizFiles (Path.join path name) tree) :: quizFilesIn path rest

end

end FileTree

def QuizFile.document? (quiz : QuizFile) : Option Document :=
  (Text.ofBytes? quiz.bytes).map (Document.ofText quiz.path)

def QuizFile.events (quiz : QuizFile) : List Event :=
  match Text.ofBytes? quiz.bytes with
  | some content => Document.ofTextEvents quiz.path content
  | none => [.fileSkipped quiz.path]

inductive LoadError where
  | unreadable (path : Path) (cause : FileError)
  | notADirectory (path : Path)
  deriving DecidableEq, Repr

def LoadError.message : LoadError → Text
  | unreadable path cause =>
    "failed to read quiz file: " ++ Path.shown path ++ ": " ++ cause.message
  | notADirectory path => "not a directory: " ++ Path.shown path

namespace Files

structure Loaded where
  documents : List Document
  events : List Event

def quizText (files : Files) (path : Path) : Except LoadError Text :=
  match files.read path with
  | .ok content => .ok content
  | .error cause => .error (.unreadable path cause)

def document (files : Files) (path : Path) : Except LoadError Document :=
  (files.quizText path).map (Document.ofText path)

def Loaded.ofText (path : Path) (content : Text) : Loaded :=
  ⟨[Document.ofText path content], Document.ofTextEvents path content⟩

def loadFile (files : Files) (path : Path) : Except LoadError Loaded :=
  (files.quizText path).map (Loaded.ofText path)

def Loaded.ofTree (path : Path) (tree : FileTree) : Loaded :=
  let found := tree.quizFiles path
  ⟨found.filterMap (·.document?), found.flatMap (·.events)⟩

def loadDirectory (files : Files) (path : Path) : Except LoadError Loaded :=
  match files.directory? path with
  | some tree => .ok (.ofTree path tree)
  | none => .error (.notADirectory path)

def load (files : Files) (path : Path) : Except LoadError Loaded :=
  match files.directory? path with
  | some tree => .ok (.ofTree path tree)
  | none => files.loadFile path

end Files

end PlainQuiz
