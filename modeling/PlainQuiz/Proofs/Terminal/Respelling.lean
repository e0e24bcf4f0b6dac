import PlainQuiz.Proofs.Terminal.Blanks

set_option autoImplicit false

namespace PlainQuiz

namespace Terminal

inductive Respells : Kind → Text → Text → Prop
  | freeText {line reply : Text} (spells : Spells line reply) : Respells .freeText line reply
  | trueFalse {line reply : Text} (spells : Spells line reply) : Respells .trueFalse line reply
  | fillBlank {pieces : List Text} {reply : Text}
      (spelled : List.Forall₂ Spells pieces (reply.splitOn Reply.blankSeparator)) :
      Respells .fillBlank (Text.join [Reply.blankSeparator] pieces) reply

namespace Spells

variable {line reply : Text} (spells : Spells line reply)

include spells

theorem alike_trim : Question.Alike (Text.trim line) (Text.trim reply) :=
  .of_lower (Text.trim_trim line) (Text.trim_trim reply) spells.lower_trim

theorem mem_of_mem {mark : Char} (solid : Text.isBlank mark = false) (mute : mark.isAlpha = false)
    (member : mark ∈ line) : mark ∈ reply := by
  obtain ⟨before, word, after, rfl, blankBefore, blankAfter, same⟩ := spells
  have inside : mark ∈ word := by
    rw [List.mem_append, List.mem_append] at member
    rcases member with (early | inside) | late
    · simp [blankBefore mark early] at solid
    · exact inside
    · simp [blankAfter mark late] at solid
  have lowered : mark.toLower ∈ reply.map Char.toLower :=
    Text.map_toLower_eq same ▸ List.mem_map_of_mem inside
  obtain ⟨c, among, letter⟩ := List.mem_map.mp lowered
  have kept : mark.toLower = mark := Text.toLower_eq_self (by rwa [Text.isAlpha_toLower])
  rw [kept] at letter
  have same : c.toLower = c := Text.toLower_eq_self (letter ▸ mute)
  exact (same.symm.trans letter) ▸ among

end Spells

end Terminal

namespace Question

open Terminal

variable {question : Question} {line reply : Text}

theorem fillings_of_spelled {pieces : List Text}
    (spelled : List.Forall₂ Spells pieces (reply.splitOn Reply.blankSeparator)) :
    List.Forall₂ Alike
      (Reply.fillings (Text.trim (Text.join [Reply.blankSeparator] pieces)))
      (Reply.fillings (Text.trim reply)) := by
  have cut : Reply.fillings (Text.trim reply) =
      (reply.splitOn Reply.blankSeparator).map Text.trim := Text.trimmedPieces_trim rfl reply
  have filled : pieces ≠ [] := by
    rintro rfl
    exact List.splitOn_ne_nil _ _ (List.forall₂_nil_left_iff.mp spelled)
  have whole : ∀ piece ∈ pieces, Reply.blankSeparator ∉ piece := by
    intro piece member bar
    obtain ⟨index, within, rfl⟩ := List.mem_iff_getElem.mp member
    have spells := spelled.get within (spelled.length_eq ▸ within)
    exact Text.separator_not_mem_of_mem_splitOn (List.get_mem _ _) (spells.mem_of_mem rfl rfl bar)
  rw [cut, Reply.fillings_join_lines filled whole, List.forall₂_map_left_iff,
    List.forall₂_map_right_iff]
  exact spelled.imp fun _ _ spells => spells.alike_trim

theorem toOption_map {ε α β : Type} (f : α → β) (result : Except ε α) :
    (result.map f).toOption = result.toOption.map f := by
  cases result <;> rfl

theorem toOption_truth_congr (labels : Labels) {word other : Text}
    (same : Text.lower word = Text.lower other) :
    (Reply.truth labels word).toOption = (Reply.truth labels other).toOption := by
  have empty : word = [] ↔ other = [] := by
    rw [← Text.lower_eq_nil_iff, same, Text.lower_eq_nil_iff]
  simp only [Reply.truth, same, empty]
  split_ifs <;> rfl

theorem gradeText_trim_congr (question : Question) (spells : Spells line reply) :
    question.gradeText (Text.trim line) = question.gradeText (Text.trim reply) := by
  simp only [gradeText, Text.trim_trim, spells.lower_trim]

/-- Where letter case is to be ignored, neither the case of ASCII letters nor padding changes what a
reply comes to: the same verdict, the same failure to be graded, or no response in both cases. -/
theorem gradeLine_of_respelled (respells : Respells question.kind line reply) (labels : Labels) :
    (question.gradeLine labels line).toOption = (question.gradeLine labels reply).toOption := by
  generalize known : question.kind = kind at respells
  cases respells with
  | freeText spells =>
    have same := question.gradeText_trim_congr spells
    simp only [gradeLine, response, known, Except.map, grade, isCorrect, same]
  | trueFalse spells =>
    have same := toOption_truth_congr labels spells.lower_trim
    simp only [gradeLine, response, known, toOption_map, same]
  | fillBlank spelled =>
    have same := question.gradeBlanks_congr (fillings_of_spelled spelled)
    simp only [gradeLine, response, known, Except.map, grade, isCorrect, same]

-- A sigma stands behind a letter whose case changes and before blanks that are trimmed.
def sigmaQuestion : Question :=
  ⟨.fillBlank, "[blank] or [blank]?", [], [("aς" : Text), "to be"], "aς, to be"⟩

theorem gradeLine_of_sigma :
    Respells sigmaQuestion.kind "\tAΣ  | tO be " "aΣ|To Be" ∧
      (sigmaQuestion.gradeLine .standard "\tAΣ  | tO be ").toOption =
        (sigmaQuestion.gradeLine .standard "aΣ|To Be").toOption ∧
      sigmaQuestion.gradeLine .standard "aΣ|To Be" = .ok (.ok ⟨true, "aς, to be"⟩) := by
  have first : Spells "\tAΣ  " "aΣ" :=
    ⟨"\t", "AΣ", "  ", rfl, List.all_eq_true.mp rfl, List.all_eq_true.mp rfl, by decide⟩
  have second : Spells " tO be " "To Be" :=
    ⟨" ", "tO be", " ", rfl, List.all_eq_true.mp rfl, List.all_eq_true.mp rfl, by decide⟩
  have spelled : List.Forall₂ Spells [("\tAΣ  " : Text), " tO be "]
      (("aΣ|To Be" : Text).splitOn Reply.blankSeparator) := .cons first (.cons second .nil)
  have respells : Respells sigmaQuestion.kind "\tAΣ  | tO be " "aΣ|To Be" := .fillBlank spelled
  exact ⟨respells, gradeLine_of_respelled respells .standard, by decide +kernel⟩

end Question

end PlainQuiz
