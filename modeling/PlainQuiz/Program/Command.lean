import PlainQuiz.Files.Path

set_option autoImplicit false

namespace PlainQuiz

inductive Command where
  | run (quiz : Path) (seed : Option Nat) (settings : Option Path)
  | check (quiz : Path) (block : Nat) (reply : Text) (mustBeCorrect : Bool)
      (settings : Option Path)
  | validate (quiz : Path) (strict : Bool)
  | list (quiz : Path) (format : Text)
  | setUp
  | version
  deriving DecidableEq, Repr

namespace Command

-- What may follow the name of an option.
inductive Shape where
  | nothing
  | value
  -- A value that may look like an option itself.
  | anyValue
  deriving DecidableEq, Repr

abbrev Given := List (Text × Text)

def looksLikeOption (argument : Text) : Bool :=
  argument.head? == some '-' && argument.length != 1

def optionOf? (argument : Text) : Option (Text × Option Text) :=
  match argument with
  | '-' :: '-' :: option =>
    let name := option.takeWhile (· ≠ '=')
    match option.dropWhile (· ≠ '=') with
    | [] => if name = [] then none else some (name, none)
    | _ :: value => some (name, some value)
  | _ => none

-- Nothing may follow `--`, the end of the options.
def options (shape : Text → Option Shape) : List Text → Option Given
  | [] => some []
  | [['-', '-']] => some []
  | argument :: rest =>
    match optionOf? argument with
    | none => none
    | some (name, attached) =>
      match shape name, attached, rest with
      | some .nothing, none, rest => (options shape rest).map ((name, []) :: ·)
      | some .value, some value, rest => (options shape rest).map ((name, value) :: ·)
      | some .anyValue, some value, rest => (options shape rest).map ((name, value) :: ·)
      | some .value, none, value :: rest =>
        if looksLikeOption value then none else (options shape rest).map ((name, value) :: ·)
      | some .anyValue, none, value :: rest => (options shape rest).map ((name, value) :: ·)
      | _, _, _ => none

def shapeIn (shapes : List (Text × Shape)) (name : Text) : Option Shape := shapes.lookup name

def noneTwice (given : Given) : Bool := (given.map (·.1)).eraseDups.length == given.length

def value? (given : Given) (name : Text) : Option Text := given.lookup name

def isGiven (given : Given) (name : Text) : Bool := (value? given name).isSome

def path (given : Given) (name : Text) : Option Path :=
  (value? given name).bind fun path => if path = [] then none else some (Text.encode path)

-- An option that may be left out, but not written wrongly.
def path? (given : Given) (name : Text) : Option (Option Path) :=
  if isGiven given name then (path given name).map some else some none

def number? (given : Given) (name : Text) : Option (Option Nat) :=
  match value? given name with
  | none => some none
  | some digits =>
    match Text.readUnsigned digits with
    | .ok n => some (some n)
    | .error _ => none

def ofOptions (shapes : List (Text × Shape)) (arguments : List Text)
    (build : Given → Option Command) : Option Command :=
  match options (shapeIn shapes) arguments with
  | some given => if noneTwice given then build given else none
  | none => none

-- Whatever follows a request for the version does not count, even right after `-V`.
def ofArguments? : List Text → Option Command
  | [] => none
  | name :: arguments =>
    if name = "run" then
      ofOptions [("quiz", .value), ("seed", .value), ("config", .value)] arguments fun given => do
        return .run (← path given "quiz") (← number? given "seed") (← path? given "config")
    else if name = "check" then
      ofOptions [("quiz", .value), ("block", .value), ("response", .anyValue),
          ("fail-on-incorrect", .nothing), ("config", .value)] arguments fun given => do
        return .check (← path given "quiz") ((← number? given "block").getD 1)
          (← value? given "response") (isGiven given "fail-on-incorrect") (← path? given "config")
    else if name = "validate" then
      ofOptions [("quiz", .value), ("strict", .nothing)] arguments fun given => do
        return .validate (← path given "quiz") (isGiven given "strict")
    else if name = "show" then
      ofOptions [("quiz", .value), ("format", .value)] arguments fun given => do
        return .list (← path given "quiz") ((value? given "format").getD "text")
    else if name = "init" then ofOptions [] arguments fun _ => some .setUp
    else if name = "--version" ∨ ("-V" : Text).isPrefixOf name then some .version
    else none

end Command

end PlainQuiz
