import PlainQuiz.Files.Path

set_option autoImplicit false

namespace PlainQuiz

inductive FileTree where
  | file (bytes : ByteArray)
  | directory (entries : List (Path.Name × FileTree))

namespace FileTree

def empty : FileTree := directory []

def isDirectory : FileTree → Bool
  | file _ => false
  | directory _ => true

def entries : FileTree → List (Path.Name × FileTree)
  | file _ => []
  | directory entries => entries

def child? (tree : FileTree) (name : Path.Name) : Option FileTree :=
  (tree.entries.find? (·.1 == name)).map (·.2)

def setEntry (tree : FileTree) (name : Path.Name) (entry : FileTree) : FileTree :=
  directory (tree.entries.filter (·.1 != name) ++ [(name, entry)])

-- What is missing on the way becomes a directory.
def insert (tree : FileTree) (leaf : FileTree) : List Path.Name → FileTree
  | [] => leaf
  | name :: rest => tree.setEntry name (insert ((tree.child? name).getD empty) leaf rest)

def addFile (tree : FileTree) (way : List Path.Name) (bytes : ByteArray) : FileTree :=
  tree.insert (file bytes) way

def addDirectory (tree : FileTree) : List Path.Name → FileTree
  | [] => tree
  | name :: rest => tree.setEntry name (addDirectory ((tree.child? name).getD empty) rest)

end FileTree

inductive FileError where
  | notFound
  | notADirectory
  | isADirectory
  | alreadyExists
  | nameTooLong
  | nulInName
  | notText
  deriving DecidableEq, Repr

def FileError.message : FileError → Text
  | notFound => "No such file or directory (os error 2)"
  | notADirectory => "Not a directory (os error 20)"
  | isADirectory => "Is a directory (os error 21)"
  | alreadyExists => "File exists (os error 17)"
  | nameTooLong => "File name too long (os error 36)"
  | nulInName => "file name contained an unexpected NUL byte"
  | notText => "stream did not contain valid UTF-8"

structure Files where
  root : FileTree
  here : List Path.Name

namespace Files

-- In bytes, for one component and for a whole path.
def longestName : Nat := 255

def longestPath : Nat := 4095

-- `above` holds the directories that were passed, the nearest first; the root is its own parent.
def walk (above : List FileTree) (tree : FileTree) : List Path.Name → Except FileError FileTree
  | [] => .ok tree
  | name :: rest =>
    if !tree.isDirectory then .error .notADirectory
    else if longestName < name.length then .error .nameTooLong
    else if name = [Path.dot] then walk above tree rest
    else if name = [Path.dot, Path.dot] then
      match above with
      | [] => walk [] tree rest
      | parent :: others => walk others parent rest
    else match tree.child? name with
      | none => .error .notFound
      | some next => walk (tree :: above) next rest

-- A slash at the end of a path asks for a directory.
def way (files : Files) (path : Path) : List Path.Name :=
  (if Path.isAbsolute path then [] else files.here) ++ Path.components path ++
    if path.getLast? = some Path.slash then [[Path.dot]] else []

def find (files : Files) (path : Path) : Except FileError FileTree :=
  if path.contains 0 then .error .nulInName
  else if path = [] then .error .notFound
  else if longestPath < path.length then .error .nameTooLong
  else walk [] files.root (files.way path)

def exists? (files : Files) (path : Path) : Bool := (files.find path).isOk

def directory? (files : Files) (path : Path) : Option FileTree :=
  match files.find path with
  | .ok tree => if tree.isDirectory then some tree else none
  | .error _ => none

def read (files : Files) (path : Path) : Except FileError Text :=
  match files.find path with
  | .error error => .error error
  | .ok (.directory _) => .error .isADirectory
  | .ok (.file bytes) =>
    match Text.ofBytes? bytes with
    | some content => .ok content
    | none => .error .notText

end Files

end PlainQuiz
