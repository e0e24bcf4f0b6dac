import PlainQuiz.Text.Utf8

set_option autoImplicit false

namespace PlainQuiz

-- A path is bytes with slashes between its components, and need not be text.
abbrev Path := List UInt8

instance : Coe Text Path := ⟨Text.encode⟩

instance : Coe String Path := ⟨fun text => Text.encode text.toList⟩

namespace Path

abbrev Name := List UInt8

def slash : UInt8 := '/'.toUInt8

def dot : UInt8 := '.'.toUInt8

def shown (path : Path) : Text := Text.ofBytes path

def isAbsolute (path : Path) : Bool := path.head? == some slash

def join (directory : Path) (name : Name) : Path :=
  if directory = [] ∨ directory.getLast? = some slash then directory ++ name
  else directory ++ slash :: name

def components (path : Path) : List Name := (path.splitOn slash).filter (· ≠ [])

-- The last component. A component `.` after another one does not count.
def name? (path : Path) : Option Name :=
  match ((components path).filter (· ≠ [dot])).getLast? with
  | some name => if name = [dot, dot] then none else some name
  | none => none

def extension? (path : Path) : Option Name :=
  match name? path with
  | none => none
  | some name =>
    let ending := (name.reverse.takeWhile (· ≠ dot)).reverse
    if ending.length + 1 < name.length then some ending else none

def Name.isAtMost (name other : Name) : Bool := !List.lex other name fun a b => a.toNat < b.toNat

end Path

end PlainQuiz
