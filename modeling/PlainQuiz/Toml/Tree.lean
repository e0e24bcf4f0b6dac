import PlainQuiz.Tools

set_option autoImplicit false

namespace PlainQuiz.Toml

inductive Origin where
  | opened
  | passedByHeader
  | passedByKey
  deriving DecidableEq, Repr

inductive Node where
  | value (value : Value)
  | table (origin : Origin) (entries : List (Text × Node))
  -- The tables of an array, the latest apart.
  | tables (earlier : List Node) (latest : Node)
  deriving Repr

namespace Node

def blank : Node := table .opened []

def setEntry (entries : List (Text × Node)) (key : Text) (node : Node) : List (Text × Node) :=
  match entries with
  | [] => [(key, node)]
  | (name, old) :: rest =>
    if name = key then (name, node) :: rest else (name, old) :: setEntry rest key node

-- A path leads into the latest table of an array, and only a path of keys minds whether a table was
-- opened.
def changeAt (byKey : Bool) (change : Node → Option Node) : List Text → Node → Option Node
  | [], node => change node
  | key :: path, table origin entries =>
    let changed : Option Node :=
      match entries.lookup key with
      | none => changeAt byKey change path
          (table (if byKey then .passedByKey else .passedByHeader) [])
      | some (value _) => none
      | some (table origin inner) =>
        if byKey && origin = .opened then none else changeAt byKey change path (table origin inner)
      | some (tables earlier latest) => (changeAt byKey change path latest).map (tables earlier)
    changed.map fun node => table origin (setEntry entries key node)
  | _ :: _, _ => none

-- The path before the key must lead to a table that was made by keys.
def put (path : List Text) (key : Text) (value : Value) : Node → Option Node :=
  changeAt true (fun
    | table origin entries =>
      if (origin == .passedByKey) == path.isEmpty || (entries.lookup key).isSome then none
      else some (table origin (setEntry entries key (.value value)))
    | _ => none) path

def openTable (path : List Text) (key : Text) : Node → Option Node :=
  changeAt false (fun
    | table origin entries =>
      match entries.lookup key with
      | none => some (table origin (setEntry entries key blank))
      | some (table .passedByHeader inner) =>
        some (table origin (setEntry entries key (table .opened inner)))
      | some _ => none
    | _ => none) path

def openArrayItem (path : List Text) (key : Text) : Node → Option Node :=
  changeAt false (fun
    | table origin entries =>
      match entries.lookup key with
      | none => some (table origin (setEntry entries key (tables [] blank)))
      | some (tables earlier latest) =>
        some (table origin (setEntry entries key (tables (earlier ++ [latest]) blank)))
      | some _ => none
    | _ => none) path

mutual

def toValue : Node → Value
  | .value scalar => scalar
  | .table _ entries => .table (toEntries entries)
  | .tables earlier latest => .array (toValues earlier ++ [toValue latest])

def toEntries : List (Text × Node) → List (Text × Value)
  | [] => []
  | (key, node) :: rest => (key, toValue node) :: toEntries rest

def toValues : List Node → List Value
  | [] => []
  | node :: rest => toValue node :: toValues rest

end

end Node

end PlainQuiz.Toml
