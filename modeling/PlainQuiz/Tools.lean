import PlainQuiz.Text.Basic

set_option autoImplicit false

namespace PlainQuiz

namespace Toml

-- A decimal stands for `digits * 10 ^ exponent`.
inductive Float where
  | decimal (negative : Bool) (digits : Nat) (exponent : Int)
  | infinity (negative : Bool)
  | nan
  deriving DecidableEq, Repr

inductive Value where
  | text (value : Text)
  | integer (value : Int)
  | float (value : Float)
  | boolean (value : Bool)
  -- A date, a time of day or both, as it is spelled.
  | moment (spelling : Text)
  | array (items : List Value)
  | table (entries : List (Text × Value))
  deriving Repr

def field? (entries : List (Text × Value)) (key : Text) : Option Value := entries.lookup key

end Toml

inductive Json where
  | number (n : Nat)
  | text (value : Text)
  | array (items : List Json)
  | object (entries : List (Text × Json))
  deriving Repr

structure Table where
  header : List Text
  rows : List (List Text)
  deriving DecidableEq, Repr

/-- A source of random orders. All that is known of an order is that nothing is added or lost. -/
structure Shuffler (Generator : Type) where
  ofSeed : Nat → Generator
  shuffle : List Text → Generator → List Text × Generator
  shuffle_perm : ∀ items generator, (shuffle items generator).1.Perm items

/-- What the program uses and does not make itself. -/
structure Tools (Generator : Type) where
  shuffler : Shuffler Generator
  readToml? : Text → Option Toml.Value
  draw : Table → Text
  print : Json → Text

end PlainQuiz
