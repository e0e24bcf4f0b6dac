import PlainQuiz.Tools

set_option autoImplicit false

namespace PlainQuiz.Json

def escape (c : Char) : Text :=
  match c with
  | '\x22' => "\\\""
  | '\x5c' => "\\\\"
  | '\x08' => "\\b"
  | '\x0c' => "\\f"
  | '\n' => "\\n"
  | '\r' => "\\r"
  | '\t' => "\\t"
  | c =>
    if c.toNat < 0x20 then
      ['\x5c', 'u', '0', '0', Nat.digitChar (c.toNat / 16), Nat.digitChar (c.toNat % 16)]
    else [c]

def quoted (value : Text) : Text := ['\x22'] ++ value.flatMap escape ++ ['\x22']

def indent (depth : Nat) : Text := '\n' :: List.replicate (2 * depth) ' '

def block (opening closing : Char) (depth : Nat) (items : List Text) : Text :=
  match items with
  | [] => [opening, closing]
  | items =>
    opening :: (Text.join [','] (items.map (indent (depth + 1) ++ ·)) ++ indent depth ++ [closing])

mutual

def render (depth : Nat) : Json → Text
  | number n => Text.ofNat n
  | text value => quoted value
  | array items => block '[' ']' depth (renderItems (depth + 1) items)
  | object entries => block '\x7b' '\x7d' depth (renderEntries (depth + 1) entries)

def renderItems (depth : Nat) : List Json → List Text
  | [] => []
  | item :: rest => render depth item :: renderItems depth rest

def renderEntries (depth : Nat) : List (Text × Json) → List Text
  | [] => []
  | (key, value) :: rest =>
    (quoted key ++ ": " ++ render depth value) :: renderEntries depth rest

end

def pretty (value : Json) : Text := render 0 value

end PlainQuiz.Json
