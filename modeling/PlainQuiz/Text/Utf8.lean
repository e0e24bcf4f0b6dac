import PlainQuiz.Text.Basic

set_option autoImplicit false

namespace PlainQuiz.Text

def encode (text : Text) : List UInt8 := text.flatMap String.utf8EncodeChar

def ofBytes? (bytes : ByteArray) : Option Text := (String.fromUTF8? bytes).map String.toList

def firstChar? (bytes : List UInt8) : Option Char := bytes.toByteArray.utf8DecodeChar? 0

-- Whether a character that takes more bytes begins with these.
def beginsChar (bytes : List UInt8) : Bool :=
  [1, 2].any fun missing =>
    match firstChar? (bytes ++ List.replicate missing 0x80) with
    | some c => c.utf8Size = bytes.length + missing
    | none => false

-- How many bytes at the front of bytes that are no text are shown as one character.
def faultLength (bytes : List UInt8) : Nat :=
  if 3 ≤ bytes.length ∧ beginsChar (bytes.take 3) then 3
  else if 2 ≤ bytes.length ∧ beginsChar (bytes.take 2) then 2
  else 1

theorem faultLength_pos (bytes : List UInt8) : 0 < faultLength bytes := by
  unfold faultLength
  split
  next => exact Nat.succ_pos 2
  next => split <;> exact Nat.succ_pos _

theorem length_drop_lt {bytes : List UInt8} {count : Nat} (filled : bytes ≠ [])
    (positive : 0 < count) : (bytes.drop count).length < bytes.length := by
  have some := List.length_pos_iff.mpr filled
  rw [List.length_drop]
  omega

-- What is no text in UTF-8 is replaced.
def ofBytes (bytes : List UInt8) : Text :=
  if _empty : bytes = [] then []
  else match firstChar? bytes with
    | some c => c :: ofBytes (bytes.drop c.utf8Size)
    | none => '\ufffd' :: ofBytes (bytes.drop (faultLength bytes))
termination_by bytes.length
decreasing_by
  · exact length_drop_lt _empty c.utf8Size_pos
  · exact length_drop_lt _empty (faultLength_pos bytes)

-- Nothing follows the last line feed unless there are bytes there.
def byteLines (bytes : List UInt8) : List (List UInt8) :=
  let pieces := bytes.splitOn 0x0A
  if pieces.getLast? = some [] then pieces.dropLast else pieces

-- A line that is not text is lost, its neighbours are not.
def linesOfBytes (bytes : ByteArray) : List (Option Text) :=
  (byteLines bytes.toList).map fun line => ofBytes? ⟨line.toArray⟩

end PlainQuiz.Text
