import PlainQuiz.Json
import PlainQuiz.Program.Basic
import PlainQuiz.Table
import PlainQuiz.Terminal.Shuffle
import PlainQuiz.Toml.Document

set_option autoImplicit false

namespace PlainQuiz.Terminal

def tools : Tools Mixer where
  shuffler := Mixer.shuffler
  readToml? := Toml.Value.ofDocument?
  draw := Table.draw
  print := Json.pretty

partial def snapshot (path : String) : IO (Option FileTree) := do
  let target := (← IO.currentDir) / path
  if ← target.isDir then
    let mut entries := []
    for entry in ← target.readDir do
      if let some tree ← snapshot (path ++ "/" ++ entry.fileName) then
        entries := (Text.encode entry.fileName.toList, tree) :: entries
    return some (.directory entries)
  else if ← target.pathExists then
    return some (.file (← IO.FS.readBinFile target))
  else
    return none

-- The place in the tree that a way with `.` and `..` in it leads to.
def place (way : List Path.Name) : List Path.Name :=
  way.foldl (fun passed name =>
    if name = [Path.dot] then passed
    else if name = [Path.dot, Path.dot] then passed.dropLast
    else passed ++ [name]) []

def spelled (path : Path) : String := Text.render (Path.shown path)

def absolute (way : List Path.Name) : String :=
  spelled (Path.slash :: [Path.slash].intercalate way)

def addPath (files : Files) (path : Path) : IO Files := do
  let way := files.way path
  let mut root := files.root
  for passed in (List.range (way.length + 1)).map way.take do
    if ← ((← IO.currentDir) / absolute passed).isDir then
      root := root.addDirectory (place passed)
  if let some tree ← snapshot (absolute way) then
    root := root.insert tree (place way)
  return { files with root := root }

def surroundings (environment : Environment) (command : Command) : IO (World Mixer) := do
  let here := Path.components (Text.encode (← IO.currentDir).toString.toList)
  let mut files : Files := ⟨FileTree.empty.addDirectory here, here⟩
  for path in Program.paths environment command do
    files ← addPath files path
  let unseeded := Mixer.shuffler.ofSeed (← IO.rand 0 (UInt64.size - 1))
  return ⟨files, environment, [], tools, unseeded⟩

partial def readLine (input : IO.FS.Stream) (line : ByteArray) : IO ByteArray := do
  let byte ← input.read 1
  if byte.isEmpty then return line
  else if byte.data.contains 0x0A then return line ++ byte
  else readLine input (line ++ byte)

def make : Change → IO Unit
  | .createDirectory path => IO.FS.createDirAll (spelled path)
  | .write path content => IO.FS.writeFile (spelled path) content.render

-- Shows what is new in the result and reads another line while one is awaited.
partial def converse (world : World Mixer) (command : Command) (shown reported : Nat) :
    IO UInt32 := do
  let result := Program.execute world command
  let output ← IO.getStdout
  output.putStr (Text.render (result.output.drop shown))
  output.flush
  IO.eprint (Text.render (result.errors.drop reported))
  let line ← if result.awaitsInput then readLine (← IO.getStdin) .empty else pure .empty
  if line.isEmpty then
    output.putStr result.closing.render
    result.changes.forM make
    return UInt32.ofNat result.exitCode
  else
    converse { world with input := world.input ++ Text.linesOfBytes line } command
      result.output.length result.errors.length

end PlainQuiz.Terminal

open PlainQuiz in
def main (arguments : List String) : IO UInt32 := do
  match Command.ofArguments? (arguments.map String.toList) with
  | none =>
    IO.eprint Result.usage.errors.render
    return UInt32.ofNat Result.usage.exitCode
  | some command =>
    let home := (← IO.getEnv "HOME").map String.toList
    let seed := (← IO.getEnv "QUIZBLOCK_SEED").map String.toList
    Terminal.converse (← Terminal.surroundings ⟨home, seed⟩ command) command 0 0
