import Mathlib.Data.List.Infix
import PlainQuiz.Proofs.Text.Lines
import PlainQuiz.Question

set_option autoImplicit false

namespace PlainQuiz.Prompt

def tokens (prompt : Text) : Nat := prompt.tails.countP gap.isPrefixOf

variable {prompt : Text}

section Plain

variable {c : Char} {rest : Text} (plain : ¬ gap <+: c :: rest)

include plain

theorem not_gap_of_plain (more : Text) (opens : c = '[')
    (matched : rest = 'b' :: 'l' :: 'a' :: 'n' :: 'k' :: ']' :: more) : False := by
  subst opens matched
  exact plain ⟨more, rfl⟩

theorem segments_of_plain : segments (c :: rest) = (segments rest).modifyHead (c :: ·) :=
  segments.eq_3 c rest (not_gap_of_plain plain)

theorem countGaps_of_plain : countGaps (c :: rest) = countGaps rest :=
  countGaps.eq_3 c rest (not_gap_of_plain plain)

theorem tokens_of_plain : tokens (c :: rest) = tokens rest := by
  have absent : gap.isPrefixOf (c :: rest) = false := by
    rwa [Bool.eq_false_iff, Ne, List.isPrefixOf_iff_prefix]
  rw [tokens, List.tails, List.countP_cons_of_neg (Bool.eq_false_iff.mp absent), tokens]

end Plain

theorem gap_induction {Holds : Text → Prop} (nil : Holds [])
    (atGap : ∀ rest, Holds rest → Holds (gap ++ rest))
    (plain : ∀ c rest, ¬ gap <+: c :: rest → Holds rest → Holds (c :: rest)) (prompt : Text) :
    Holds prompt := by
  induction prompt using segments.induct with
  | case1 => exact nil
  | case2 rest ih => exact atGap rest ih
  | case3 c rest unmatched ih =>
    refine plain c rest ?_ ih
    rintro ⟨more, whole⟩
    obtain ⟨opens, matched⟩ := List.cons.inj whole
    exact unmatched more opens.symm matched.symm

-- A token can only begin with a bracket.
theorem tokens_append {word : Text} (closed : '[' ∉ word) (rest : Text) :
    tokens (word ++ rest) = tokens rest := by
  induction word with
  | nil => rfl
  | cons c word ih =>
    obtain ⟨other, later⟩ := not_or.mp (List.mem_cons.not.mp closed)
    have plain : ¬ gap <+: c :: (word ++ rest) := fun ⟨_, whole⟩ => other (List.cons.inj whole).1
    rw [List.cons_append, tokens_of_plain plain, ih later]

theorem tokens_gap (rest : Text) : tokens (gap ++ rest) = tokens rest + 1 := by
  have here : gap.isPrefixOf (gap ++ rest) = true :=
    List.isPrefixOf_iff_prefix.mpr (List.prefix_append gap rest)
  have behind : tokens (gap.tail ++ rest) = tokens rest := tokens_append (by decide) rest
  rw [← behind]
  exact List.countP_cons_of_pos here

theorem tokens_eq (prompt : Text) : tokens prompt = countGaps prompt := by
  induction prompt using gap_induction with
  | nil => rfl
  | atGap rest ih => rw [tokens_gap, countGaps_gap, ih]
  | plain c rest plain ih => rw [tokens_of_plain plain, countGaps_of_plain plain, ih]

theorem tokens_pos_of_infix (contained : gap <:+: prompt) : 0 < tokens prompt := by
  obtain ⟨rest, starts, ends⟩ := List.infix_iff_prefix_suffix.mp contained
  exact List.countP_pos_iff.mpr
    ⟨rest, (List.mem_tails _ _).mpr ends, List.isPrefixOf_iff_prefix.mpr starts⟩

theorem segments_ne_nil (prompt : Text) : segments prompt ≠ [] := by
  induction prompt using gap_induction with
  | nil | atGap => simp [segments, segments_gap]
  | plain c rest plain ih =>
    rw [segments_of_plain plain]
    simpa using ih

theorem join_modifyHead (c : Char) {pieces : List Text} (filled : pieces ≠ []) :
    Text.join gap (pieces.modifyHead (c :: ·)) = c :: Text.join gap pieces := by
  obtain ⟨first, rest, rfl⟩ := List.exists_cons_of_ne_nil filled
  cases rest <;> simp [Text.join_cons_cons]

theorem join_segments (prompt : Text) : Text.join gap (segments prompt) = prompt := by
  induction prompt using gap_induction with
  | nil => rfl
  | atGap rest ih =>
    obtain ⟨first, more, shape⟩ := List.exists_cons_of_ne_nil (segments_ne_nil rest)
    rw [segments_gap, shape, Text.join_cons_cons, ← shape, ih, List.nil_append]
  | plain c rest plain ih =>
    rw [segments_of_plain plain, join_modifyHead c (segments_ne_nil rest), ih]

theorem length_segments (prompt : Text) : (segments prompt).length = countGaps prompt + 1 := by
  induction prompt using gap_induction with
  | nil => rfl
  | atGap rest ih => rw [segments_gap, List.length_cons, countGaps_gap, ih]
  | plain c rest plain ih =>
    rw [segments_of_plain plain, countGaps_of_plain plain, List.length_modifyHead, ih]

theorem prefix_of_segments {first : Text} {more : List Text}
    (shape : segments prompt = first :: more) : first <+: prompt := by
  have whole := join_segments prompt
  rw [shape] at whole
  cases more with
  | nil =>
    rw [Text.join_singleton] at whole
    rw [whole]
  | cons next later =>
    rw [Text.join_cons_cons] at whole
    exact ⟨_, whole⟩

theorem gap_not_infix {segment : Text} (member : segment ∈ segments prompt) :
    ¬ gap <:+: segment := by
  have empty : ¬ gap <:+: [] := by decide
  induction prompt using gap_induction generalizing segment with
  | nil =>
    obtain rfl := List.mem_singleton.mp member
    exact empty
  | atGap rest ih =>
    rw [segments_gap, List.mem_cons] at member
    rcases member with rfl | later
    · exact empty
    · exact ih later
  | plain c rest plain ih =>
    obtain ⟨first, more, shape⟩ := List.exists_cons_of_ne_nil (segments_ne_nil rest)
    rw [segments_of_plain plain, shape, List.modifyHead_cons, List.mem_cons] at member
    rw [shape] at ih
    rcases member with rfl | later
    · rw [List.infix_cons_iff, not_or]
      -- A token that begins here would also begin here in the prompt.
      have longer : c :: first <+: c :: rest :=
        (List.prefix_cons_inj c).mpr (prefix_of_segments shape)
      exact ⟨fun starts => plain (starts.trans longer), ih List.mem_cons_self⟩
    · exact ih (List.mem_cons_of_mem first later)

end PlainQuiz.Prompt
