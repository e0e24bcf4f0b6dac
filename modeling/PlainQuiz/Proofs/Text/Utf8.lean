import PlainQuiz.Proofs.Text.Lines
import PlainQuiz.Text.Utf8

set_option autoImplicit false

namespace PlainQuiz.Text

theorem encode_append (text after : Text) : encode (text ++ after) = encode text ++ encode after :=
  List.flatMap_append

theorem toList_loop (bytes : ByteArray) (index : Nat) (read : List UInt8) :
    ByteArray.toList.loop bytes index read = read.reverse ++ bytes.data.toList.drop index := by
  fun_induction ByteArray.toList.loop bytes index read with
  | case1 index read within ih =>
    have inside : index < bytes.data.size := within
    have here : bytes.data.toList.drop index =
        bytes.get! index :: bytes.data.toList.drop (index + 1) := by
      rw [List.drop_eq_getElem_cons (by simpa using inside)]
      simp [ByteArray.get!, getElem!_pos bytes.data index inside]
    rw [ih, here]
    simp
  | case2 index read beyond =>
    have nothing : bytes.data.toList.drop index = [] := by
      rw [List.drop_eq_nil_iff]
      simpa using Nat.le_of_not_lt beyond
    rw [nothing, List.append_nil]

theorem toList_toUTF8 (text : Text) : (render text).toUTF8.toList = encode text := by
  rw [ByteArray.toList, toList_loop]
  simp [render, encode, List.utf8Encode]

theorem ofBytes?_toUTF8 (text : Text) : ofBytes? (render text).toUTF8 = some text := by
  have back : String.fromUTF8? (render text).toUTF8 = some (render text) := by
    rw [String.toUTF8_eq_toByteArray, String.fromUTF8?, dif_pos (render text).isValidUTF8]
    rfl
  rw [ofBytes?, back]
  simp [render]

theorem ofBytes?_encode (line : Text) : ofBytes? ⟨(encode line).toArray⟩ = some line := by
  have bytes : (⟨(encode line).toArray⟩ : ByteArray) = (render line).toUTF8 := by
    apply ByteArray.ext
    simp [render, encode, List.utf8Encode]
  rw [bytes, ofBytes?_toUTF8]

theorem toNat_of_mem_utf8EncodeChar {c : Char} {byte : UInt8}
    (member : byte ∈ String.utf8EncodeChar c) : byte.toNat = c.toNat ∨ 0x80 ≤ byte.toNat := by
  simp only [String.utf8EncodeChar] at member
  split_ifs at member with single
  next =>
    obtain rfl := List.mem_singleton.mp member
    have small : c.val.toNat < 256 := by omega
    exact .inl (Nat.mod_eq_of_lt small)
  all_goals
    simp only [List.mem_cons, List.not_mem_nil, or_false] at member
    rcases member with rfl | rfl | rfl | rfl <;> right <;> simp only [UInt8.toNat_ofNat'] <;> omega

theorem eq_of_feed_mem {c : Char} (member : 0x0A ∈ String.utf8EncodeChar c) : c = '\n' := by
  have same : c.toNat = 10 := by
    rcases toNat_of_mem_utf8EncodeChar member with same | high
    · exact same.symm
    · exact absurd high (by decide)
  rw [← Char.ofNat_toNat c, same]

theorem feed_not_mem_encode {line : Text} (whole : '\n' ∉ line) : 0x0A ∉ encode line := by
  intro member
  obtain ⟨c, inside, among⟩ := List.mem_flatMap.mp member
  exact whole (eq_of_feed_mem among ▸ inside)

theorem encode_join (pieces : List Text) :
    encode (join "\n" pieces) = [0x0A].intercalate (pieces.map encode) := by
  induction pieces with
  | nil => rfl
  | cons piece pieces ih =>
    cases pieces with
    | nil => simp
    | cons next pieces =>
      rw [join_cons_cons, encode_append, encode_append, ih]
      rfl

theorem splitOn_encode (text : Text) :
    (encode text).splitOn 0x0A = (text.splitOn '\n').map encode := by
  have whole : join "\n" (text.splitOn '\n') = text := List.intercalate_splitOn '\n'
  have apart : ∀ piece ∈ (text.splitOn '\n').map encode, 0x0A ∉ piece := by
    intro piece member
    obtain ⟨line, among, rfl⟩ := List.mem_map.mp member
    exact feed_not_mem_encode (separator_not_mem_of_mem_splitOn among)
  conv_lhs => rw [← whole, encode_join]
  exact List.splitOn_intercalate _ apart (by simp [List.splitOn_ne_nil])

theorem exists_of_mem_byteLines {text : Text} {line : List UInt8}
    (member : line ∈ byteLines (encode text)) : ∃ read : Text, line = encode read := by
  have among : line ∈ (encode text).splitOn 0x0A := by
    simp only [byteLines] at member
    split at member
    next => exact (List.dropLast_sublist _).mem member
    next => exact member
  rw [splitOn_encode] at among
  obtain ⟨read, _, rfl⟩ := List.mem_map.mp among
  exact ⟨read, rfl⟩

theorem none_not_mem_linesOfBytes (text : Text) : none ∉ linesOfBytes (render text).toUTF8 := by
  intro member
  obtain ⟨line, among, lost⟩ := List.mem_map.mp member
  rw [toList_toUTF8] at among
  obtain ⟨read, rfl⟩ := exists_of_mem_byteLines among
  rw [ofBytes?_encode] at lost
  exact Option.some_ne_none _ lost

end PlainQuiz.Text
