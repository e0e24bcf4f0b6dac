import PlainQuiz.Toml.Moment
import PlainQuiz.Toml.Number
import PlainQuiz.Toml.Quoted
import PlainQuiz.Toml.Tree

set_option autoImplicit false

namespace PlainQuiz.Toml

-- Arrays and inline tables nest less deeply than this, and keys have fewer parts.
def nestingLimit : Nat := 80

def isBareKey (c : Char) : Bool := c.isAlphanum || c = '_' || c = '-'

def simpleKey : Reader Text := fun text =>
  ((basicText text).or (literalText text)).or <|
    match text.takeWhile isBareKey with
    | [] => none
    | key => some (key, text.dropWhile isBareKey)

def paddedKey : Reader Text := fun text =>
  (simpleKey (skipBlanks text)).map fun (key, rest) => (key, skipBlanks rest)

def dottedKey : Reader (List Text × Text) := fun text =>
  let (parts, rest) := Reader.separated paddedKey '.' text
  match parts.getLast? with
  | none => none
  | some key =>
    if parts.length < nestingLimit then some ((parts.dropLast, key), rest) else none

structure KeyValue where
  path : List Text
  key : Text
  value : Value

def keyValue (value : Reader Value) : Reader KeyValue := fun text =>
  match dottedKey text with
  | some ((path, key), '=' :: rest) =>
    (value (skipBlanks rest)).map fun (value, last) => (⟨path, key, value⟩, skipBlanks last)
  | _ => none

-- A comma may follow the last item.
def array (value : Reader Value) : Reader Value := fun text =>
  let item : Reader Value := fun text =>
    (value (skipLayout text)).map fun (value, rest) => (value, skipLayout rest)
  let (items, rest) := Reader.separated item ',' text
  let rest := match items, rest with
    | _ :: _, ',' :: rest => rest
    | _, rest => rest
  match skipLayout rest with
  | ']' :: last => some (.array items, last)
  | _ => none

def inlineTable (value : Reader Value) : Reader Value := fun text =>
  let (pairs, rest) := Reader.separated (keyValue value) ',' text
  match pairs.foldlM (fun node pair => node.put pair.path pair.key pair.value) Node.blank,
      skipBlanks rest with
  | some node, '\x7d' :: last => some (node.toValue, last)
  | _, _ => none

def scalar : Reader Value := fun text =>
  (((quoted text).map fun (value, rest) => (.text value, rest)).or <|
    (Reader.literal "true" (.boolean true) text).or <|
    (Reader.literal "false" (.boolean false) text).or <|
    (moment text).or <| (float text).or (integer text))

def value : Nat → Reader Value
  | 0, text => scalar text
  | depth + 1, text =>
    match text with
    | '[' :: rest => array (value depth) rest
    | '\x7b' :: rest => inlineTable (value depth) rest
    | _ => scalar text

structure Draft where
  root : Node
  header : List Text

namespace Draft

def blank : Draft := ⟨.blank, []⟩

def put (draft : Draft) (pair : KeyValue) : Option Draft :=
  (draft.root.changeAt false (·.put pair.path pair.key pair.value) draft.header).map
    ({ draft with root := · })

end Draft

def header (opened : List Text → Text → Node → Option Node) (closing : Text) (draft : Draft)
    (text : Text) : Option (Draft × Text) :=
  match dottedKey text with
  | none => none
  | some ((path, key), rest) => do
    let rest ← closing.isPrefixOf? rest
    let last ← lineEnd rest
    let root ← opened path key draft.root
    return (⟨root, path ++ [key]⟩, last)

def statement (draft : Draft) (text : Text) : Option (Draft × Text) :=
  match text with
  | '[' :: '[' :: rest => header Node.openArrayItem "]]" draft rest
  | '[' :: rest => header Node.openTable "]" draft rest
  | _ =>
    match lineEnd text with
    | some rest => some (draft, rest)
    | none => do
      let (pair, rest) ← keyValue (value (nestingLimit - 1)) text
      let last ← lineEnd rest
      return (← draft.put pair, last)

def statements (draft : Draft) (text : Text) : Option Draft :=
  match skipBlanks text with
  | [] => some draft
  | start =>
    match statement draft start with
    | none => none
    | some (next, rest) => if rest.length < text.length then statements next rest else none
termination_by text.length

-- A byte order mark is skipped.
def Value.ofDocument? (text : Text) : Option Value :=
  let text := match text with
    | '\ufeff' :: rest => rest
    | _ => text
  (statements .blank text).map (·.root.toValue)

end PlainQuiz.Toml
