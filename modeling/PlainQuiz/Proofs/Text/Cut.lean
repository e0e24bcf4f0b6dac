import PlainQuiz.Proofs.Text.LetterCase
import PlainQuiz.Proofs.Text.Utf8

set_option autoImplicit false

namespace PlainQuiz.Text

-- Nothing if the position lies inside a character or beyond the end.
def cutAt? : Text → Nat → Option (Text × Text)
  | text, 0 => some ([], text)
  | [], _ + 1 => none
  | c :: rest, bytes + 1 =>
    if c.utf8Size ≤ bytes + 1 then
      (cutAt? rest (bytes + 1 - c.utf8Size)).map fun (before, after) => (c :: before, after)
    else none

theorem length_encode_cons (c : Char) (rest : Text) :
    (encode (c :: rest)).length = c.utf8Size + (encode rest).length := by
  simp [encode]

theorem length_encode_eq_zero_iff {text : Text} : (encode text).length = 0 ↔ text = [] := by
  cases text with
  | nil => simp [encode]
  | cons c rest =>
    have positive := c.utf8Size_pos
    simp [length_encode_cons, Nat.ne_of_gt positive]

theorem cutAt?_eq_some_iff {text before after : Text} {bytes : Nat} :
    cutAt? text bytes = some (before, after) ↔
      text = before ++ after ∧ (encode before).length = bytes := by
  induction text, bytes using cutAt?.induct generalizing before with
  | case1 text =>
    rw [cutAt?, length_encode_eq_zero_iff, Option.some.injEq, Prod.mk.injEq]
    constructor
    · rintro ⟨rfl, rfl⟩
      exact ⟨rfl, rfl⟩
    · rintro ⟨rfl, rfl⟩
      exact ⟨rfl, rfl⟩
  | case2 bytes =>
    refine iff_of_false (by simp [cutAt?]) ?_
    rintro ⟨whole, counted⟩
    obtain ⟨rfl, -⟩ := List.append_eq_nil_iff.mp whole.symm
    simp [encode] at counted
  | case3 c rest bytes fits ih =>
    rw [cutAt?, if_pos fits, Option.map_eq_some_iff]
    constructor
    · rintro ⟨⟨head, tail⟩, cut, same⟩
      obtain ⟨rfl, rfl⟩ := Prod.mk.inj same
      obtain ⟨rfl, counted⟩ := ih.mp cut
      exact ⟨rfl, by rw [length_encode_cons]; omega⟩
    · rintro ⟨whole, counted⟩
      cases before with
      | nil => simp [encode] at counted
      | cons d more =>
        obtain ⟨rfl, rfl⟩ := List.cons.inj whole
        rw [length_encode_cons] at counted
        exact ⟨(more, after), ih.mpr ⟨rfl, by omega⟩, rfl⟩
  | case4 c rest bytes wide =>
    refine iff_of_false (by simp [cutAt?, wide]) ?_
    rintro ⟨whole, counted⟩
    cases before with
    | nil => simp [encode] at counted
    | cons d more =>
      obtain ⟨rfl, -⟩ := List.cons.inj whole
      rw [length_encode_cons] at counted
      omega

theorem isAscii_toLower (c : Char) : isAscii c.toLower = isAscii c :=
  of_toLower (fun c d => isAscii d = isAscii c) (fun _ => rfl) (by decide) c

theorem isAscii_of_same {text word : Text} (same : sameIgnoringAsciiCase text word = true)
    (ascii : ∀ c ∈ word, isAscii c = true) : ∀ c ∈ text, isAscii c = true := by
  intro c member
  have lowered : c.toLower ∈ word.map Char.toLower :=
    map_toLower_eq same ▸ List.mem_map_of_mem member
  obtain ⟨d, among, equal⟩ := List.mem_map.mp lowered
  rw [← isAscii_toLower, ← equal, isAscii_toLower]
  exact ascii d among

theorem length_encode_of_isAscii {text : Text} (ascii : ∀ c ∈ text, isAscii c = true) :
    (encode text).length = text.length := by
  induction text with
  | nil => rfl
  | cons c rest ih =>
    obtain ⟨here, later⟩ := List.forall_mem_cons.mp ascii
    have single : c.utf8Size = 1 := by
      rw [Char.utf8Size_eq_one_iff, UInt32.le_iff_toNat_le]
      exact Nat.le_of_lt_succ (of_decide_eq_true here)
    rw [length_encode_cons, ih later, single, List.length_cons, Nat.add_comm]

end PlainQuiz.Text
