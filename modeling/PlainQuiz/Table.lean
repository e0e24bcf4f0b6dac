import PlainQuiz.Text.Width.Cluster
import PlainQuiz.Tools

set_option autoImplicit false

namespace PlainQuiz

namespace Text

def measure : Text → Int × Front
  | [] => (0, .ofHead .other)
  | c :: rest =>
    let (columns, front) := measure rest
    let (more, next) := front.cons c
    (columns + more, next)

def width (text : Text) : Nat := (measure text).1.toNat

def padTo (columns : Nat) (text : Text) : Text :=
  text ++ List.replicate (columns - width text) ' '

end Text

namespace Table

def columnWidths (table : Table) : List Nat :=
  (List.range table.header.length).map fun column =>
    ((table.header :: table.rows).map fun row => Text.width (row.getD column [])).foldl max 0

-- A line of `dash` under every column, a blank on both sides included.
def rule (left inner right dash : Char) (widths : List Nat) : Text :=
  left :: Text.join [inner] (widths.map fun columns => List.replicate (columns + 2) dash) ++ [right]

def cells (widths : List Nat) (row : List Text) : Text :=
  "| " ++ Text.join " | " (widths.zipWith Text.padTo row) ++ " |"

def draw (table : Table) : Text :=
  let widths := table.columnWidths
  let border := rule '+' '+' '+' '-' widths
  let between := rule '|' '+' '|' '-' widths
  let body := (table.rows.map (cells widths)).intersperse between
  Text.join ['\n'] <|
    [border, cells widths table.header, rule '+' '=' '+' '=' widths] ++ body ++ [border]

end Table

end PlainQuiz
