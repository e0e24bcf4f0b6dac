import PlainQuiz.Proofs.Authored
import PlainQuiz.Proofs.Terminal.Filling

set_option autoImplicit false

namespace PlainQuiz

namespace Terminal

def Spells (line answer : Text) : Prop :=
  ∃ before word after, line = before ++ word ++ after ∧
    (∀ c ∈ before, Text.isBlank c = true) ∧ (∀ c ∈ after, Text.isBlank c = true) ∧
    Text.sameIgnoringAsciiCase word answer = true

theorem Spells.lower_trim {line answer : Text} (spells : Spells line answer) :
    Text.lower (Text.trim line) = Text.lower (Text.trim answer) := by
  obtain ⟨before, word, after, rfl, blankBefore, blankAfter, same⟩ := spells
  rw [Text.trim_append_blank blankBefore blankAfter]
  exact Text.lower_eq_of_same (Text.sameIgnoringAsciiCase_trim same)

theorem lower_trim_of_spelled {lines answers : List Text}
    (solid : ∀ answer ∈ answers, Text.trim answer = answer)
    (spelled : List.Forall₂ Spells lines answers) :
    List.Forall₂ (fun line answer => Text.lower (Text.trim line) = Text.lower answer)
      lines answers := by
  induction spelled with
  | nil => exact .nil
  | @cons line answer lines answers spells _ ih =>
    have trimmed := solid answer List.mem_cons_self
    refine .cons (by rw [spells.lower_trim, trimmed]) (ih ?_)
    exact fun next member => solid next (List.mem_cons_of_mem answer member)

theorem taken_chips (taken : List Nat) : Filling.taken (taken.map .chip) = taken := by
  induction taken with
  | nil => rfl
  | cons index rest ih => exact congrArg (index :: ·) ih

theorem accepted_of_spelled {chips done nexts later lines : List Text} {taken : List Nat}
    (serves : Chips.Serves chips done taken) (perm : chips.Perm (done ++ nexts ++ later))
    (spelled : List.Forall₂ (fun line answer => Text.lower (Text.trim line) = Text.lower answer)
      lines nexts) :
    ∃ filled, Chips.Serves chips (done ++ nexts) filled ∧
      Filling.Accepted chips (taken.map .chip) lines (filled.map .chip) := by
  induction spelled generalizing done taken with
  | nil => exact ⟨taken, by simpa using serves, .nil _⟩
  | @cons line next lines nexts same _ ih =>
    obtain ⟨index, found, free, serving⟩ := serves.find_next (by simpa using perm) same
    obtain ⟨filled, served, accepted⟩ := ih serving (by simpa using perm)
    have adds : Filling.Adds chips (taken.map .chip) line (.chip index) :=
      .chip (by rwa [taken_chips]) (by rwa [taken_chips])
    exact ⟨filled, by simpa using served, .cons adds (by simpa using accepted)⟩

theorem fillings_of_serves {chips answers : List Text} {taken : List Nat}
    (serves : Chips.Serves chips answers taken) (solid : ∀ chip ∈ chips, Text.trim chip = chip)
    (also : ∀ answer ∈ answers, Text.trim answer = answer) :
    List.Forall₂ Question.Alike ((taken.map Filling.chip).map (Filling.text chips)) answers := by
  rw [List.map_map, List.forall₂_map_left_iff]
  have each := serves.reads
  clear serves
  induction each with
  | nil => exact .nil
  | @cons index answer taken answers read _ ih =>
    refine .cons ?_ (ih fun next member => also next (List.mem_cons_of_mem answer member))
    obtain ⟨inside, same⟩ := Chips.text_of_reads read
    exact .of_lower (solid _ inside) (also answer (by simp)) same

section Present

variable {source : Text} {question : Question} {chips lines : List Text}

theorem attempt_spelled (fill : question.kind = .fillBlank)
    (solid : ∀ answer ∈ question.answers, Text.trim answer = answer)
    (enough : question.blankCount ≤ question.answers.length)
    (filled : ∀ answer ∈ question.answers.take question.blankCount, answer ≠ [])
    (perm : chips.Perm question.answers)
    (spelled : List.Forall₂ Spells lines (question.answers.take question.blankCount))
    (labels : Labels) (rest : Input) :
    ∃ response, question.attempt labels chips (lines.map some ++ rest) =
        ⟨blankRequests 1 question.blankCount, .done response, rest⟩ ∧
      question.grade response = .ok ⟨true, question.answerSummary⟩ := by
  have count : question.blankCount = lines.length := by
    rw [spelled.length_eq, List.length_take, Nat.min_eq_left enough]
  have wanted := question.answers.take_append_drop question.blankCount
  have same := lower_trim_of_spelled
    (fun answer member => solid answer (List.mem_of_mem_take member)) spelled
  obtain ⟨taken, serves, accepted⟩ := accepted_of_spelled
    (show Chips.Serves chips [] [] from ⟨List.nodup_nil, .nil⟩)
    (by rwa [List.nil_append, wanted]) same
  have run := Question.askBlanks_of_accepted accepted (by simpa using count.symm) rest
  refine ⟨Question.blanksOf chips (taken.map .chip), ?_, ?_⟩
  · rw [List.map_nil] at run
    rw [Question.attempt, fill]
    dsimp only
    rw [run, count]
    rfl
  · have alike := fillings_of_serves serves (fun chip member => solid chip (perm.mem_iff.mp member))
      (fun answer member => solid answer (List.mem_of_mem_take member))
    have graded := question.gradeBlanks_congr alike
    have decided : question.isCorrect (Question.blanksOf chips (taken.map .chip)) =
        question.gradeBlanks ((taken.map Filling.chip).map (Filling.text chips)) := by
      simp only [Question.isCorrect, Question.blanksOf, fill]
    rw [List.nil_append] at graded
    rw [Question.grade, decided, graded, ← Question.authoredBlanks,
      Question.gradeBlanks_authoredBlanks solid ⟨enough, filled⟩]
    rfl

/-- Spelling the answers of a parsed question scores at the first attempt: each line is read once,
no chip is refused, and what follows in the input is left alone. -/
theorem present_spelled (parsed : Question.ofBlock source = .ok question)
    (fill : question.kind = .fillBlank)
    (enough : question.blankCount ≤ question.answers.length)
    (filled : ∀ answer ∈ question.answers.take question.blankCount, answer ≠ [])
    (perm : chips.Perm question.answers)
    (spelled : List.Forall₂ Spells lines (question.answers.take question.blankCount))
    (labels : Labels) (number total : Nat) (rest : Input) :
    lines.length = question.blankCount ∧
      question.present labels number total chips (lines.map some ++ rest) =
        ⟨(question.heading number total :: question.shown labels chips).map .line ++
            (blankRequests 1 question.blankCount ++ [.line labels.correct, .line []]),
          .done .correct, rest⟩ := by
  obtain ⟨response, run, graded⟩ := attempt_spelled fill
    (fun answer => Question.trim_of_mem_answers parsed) enough filled perm spelled labels rest
  constructor
  · rw [spelled.length_eq, List.length_take, Nat.min_eq_left enough]
  · have verdict : labels.verdict question (question.grade response) =
        (some .correct, labels.correct) := by
      rw [graded]
      rfl
    rw [Question.present, Question.takeReplies_eq, run]
    simp only [verdict]
    rfl

-- The answers are labels of one another's chips, and two of them differ in letter case only.
def labelLike : Question :=
  ⟨.fillBlank, "[blank] [blank] [blank]", [], [("b" : Text), "B", "a"], "b, B, a"⟩

theorem present_labelLike :
    (labelLike.present .standard 1 1 [("a" : Text), "B", "b"]
        ([(" B\t" : Text), "b", "A"].map some)).ending = .done .correct := by
  have parsed : Question.ofBlock
      "-- Type fb\n-- Question\n[blank] [blank] [blank]\n-- Answer b, B, a" = .ok labelLike := by
    decide
  have perm : List.Perm [("a" : Text), "B", "b"] labelLike.answers := by decide
  have spelled : List.Forall₂ Spells [(" B\t" : Text), "b", "A"]
      (labelLike.answers.take labelLike.blankCount) :=
    .cons ⟨" ", "B", "\t", rfl, List.all_eq_true.mp rfl, List.all_eq_true.mp rfl, rfl⟩
      (.cons ⟨[], "b", [], rfl, by simp, by simp, rfl⟩
        (.cons ⟨[], "A", [], rfl, by simp, by simp, rfl⟩ .nil))
  obtain ⟨_, run⟩ := present_spelled parsed rfl (by decide) (by decide) perm spelled
    .standard 1 1 []
  rw [List.append_nil] at run
  rw [run]

end Present

end Terminal

end PlainQuiz
