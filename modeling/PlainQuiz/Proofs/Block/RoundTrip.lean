import PlainQuiz.Proofs.Block.Canonical
import PlainQuiz.Proofs.Block.Finish

set_option autoImplicit false

namespace PlainQuiz.Block

namespace Reader

theorem run_append (reader : Reader) (first second : List Line) :
    reader.run (first ++ second) = (reader.run first).run second :=
  List.foldl_append

theorem foldl_addLine {lines : List Text} (filled : ∀ line ∈ lines, line ≠ []) :
    lines.foldl Text.addLine [] = Text.join "\n" lines := by
  induction lines using List.reverseRecOn with
  | nil => rfl
  | append_singleton lines line ih =>
    have earlier : ∀ next ∈ lines, next ≠ [] := fun next member => filled next (by simp [member])
    rw [List.foldl_append, ih earlier, Text.join_concat earlier]
    rfl

theorem run_prompt_lines (draft : Draft) (lines : List Text) :
    (⟨.inPrompt, draft⟩ : Reader).run (lines.map .content) =
      ⟨.inPrompt, { draft with prompt := lines.foldl Text.addLine draft.prompt }⟩ := by
  induction lines generalizing draft with
  | nil => rfl
  | cons line rest ih => exact ih (draft.addPromptLine line)

theorem run_opening (kind : Kind) {lines : List Text} (filled : ∀ line ∈ lines, line ≠ []) :
    start.run (.kind kind.tag :: .prompt [] :: lines.map .content) =
      ⟨.inPrompt, ⟨kind, Text.join "\n" lines, [], [], []⟩⟩ := by
  have named : Kind.ofTag kind.tag = kind := by
    rw [Kind.ofTag, Kind.ofTag?_tag]
    rfl
  have tagged : kind.tag ≠ [] := by cases kind <;> decide
  have prompted := run_prompt_lines ⟨kind, [], [], [], []⟩ lines
  rw [foldl_addLine filled] at prompted
  rw [← prompted]
  simp [run, start, step, Draft.blank, tagged, named]

theorem addOptionLine_last (draft : Draft) (options : List Choice) (last : Choice) (line : Text) :
    { draft with options := options ++ [last] }.addOptionLine options.length line =
      { draft with options := options ++ [⟨last.id, Text.addLine last.text line⟩] } := by
  simp [Draft.addOptionLine, List.modify_eq_take_drop]

theorem run_option_lines (draft : Draft) (options : List Choice) (last : Choice)
    (lines : List Text) :
    (⟨.inOption options.length, { draft with options := options ++ [last] }⟩ : Reader).run
        (lines.map .content) =
      ⟨.inOption options.length,
        { draft with options := options ++ [⟨last.id, lines.foldl Text.addLine last.text⟩] }⟩ := by
  induction lines generalizing last with
  | nil => rfl
  | cons line rest ih =>
    have next := ih ⟨last.id, Text.addLine last.text line⟩
    rw [← addOptionLine_last] at next
    exact next

theorem run_option (reader : Reader) {option : Text × List Text}
    (filled : ∀ line ∈ option.2, line ≠ []) :
    reader.run (Outline.parsedOption option) =
      ⟨.inOption reader.draft.options.length,
        { reader.draft with options := reader.draft.options ++ [Outline.choice option] }⟩ := by
  have added := run_option_lines reader.draft reader.draft.options ⟨option.1, []⟩ option.2
  rw [foldl_addLine filled] at added
  exact added

theorem draft_run_options (reader : Reader) {options : List (Text × List Text)}
    (filled : ∀ option ∈ options, ∀ line ∈ option.2, line ≠ []) :
    (reader.run (options.flatMap Outline.parsedOption)).draft =
      { reader.draft with options := reader.draft.options ++ options.map Outline.choice } := by
  induction options generalizing reader with
  | nil => simp [run]
  | cons option rest ih =>
    rw [List.flatMap_cons, run_append, run_option reader (filled option (by simp)),
      ih _ fun next member => filled next (List.mem_cons_of_mem option member)]
    simp

end Reader

namespace Outline

variable {outline : Outline} (canonical : outline.Canonical)

theorem interpret_joined {kind : Kind} {prompt : Text} {answers : List Text}
    (clean : ∀ answer ∈ answers, Text.trim answer = answer)
    (fit : AnswersFit kind (Prompt.countGaps prompt) answers) :
    Answer.interpret kind prompt (Text.trim (Text.join ", " answers)) = answers ∧
      Text.trim (Text.join ", " answers) ≠ [] := by
  unfold AnswersFit at fit
  split_ifs at fit with truth single
  next =>
    subst truth
    rcases fit with rfl | rfl
    · exact ⟨rfl, by decide⟩
    · exact ⟨rfl, by decide⟩
  next =>
    obtain ⟨rfl, few⟩ := single
    obtain ⟨answer, rfl⟩ := List.length_eq_one_iff.mp fit.1
    rw [Text.join_singleton, clean answer (by simp)]
    exact ⟨if_pos few, fun nothing => fit.2 (by simp [nothing])⟩
  next =>
    obtain ⟨some, notBare, whole⟩ := fit
    have cut : Text.splitCommas (Text.trim (Text.join ", " answers)) = answers := by
      rw [Text.splitCommas_trim, Text.splitCommas_join some]
      exact fun answer member => ⟨clean answer member, whole answer member⟩
    refine ⟨?_, fun nothing => ?_⟩
    · cases kind with
      | trueFalse => exact absurd rfl truth
      | fillBlank => exact (if_neg fun few => single ⟨rfl, few⟩).trans cut
      | multipleChoice | freeText | sort => exact cut
    · rw [nothing] at cut
      exact notBare cut.symm

theorem answers_ne_nil {kind : Kind} {gaps : Nat} {answers : List Text}
    (fit : AnswersFit kind gaps answers) : answers ≠ [] := by
  unfold AnswersFit at fit
  split_ifs at fit
  · rcases fit with rfl | rfl <;> exact List.cons_ne_nil _ _
  · obtain ⟨answer, rfl⟩ := List.length_eq_one_iff.mp fit.1
    exact List.cons_ne_nil _ _
  · exact fit.1

theorem trim_block_ne_nil (outline : Outline) : Text.trim outline.block ≠ [] := by
  rw [Ne, Text.trim_eq_nil_iff]
  intro blank
  have dash : '-' ∈ outline.block := by
    simp [block, lines, Text.join]
  exact absurd (blank '-' dash) (by decide)

include canonical

theorem draft_block : Block.draft outline.block =
    ⟨outline.kind, Text.join "\n" outline.prompt, outline.options.map choice, outline.answers,
      Text.trim (Text.join ", " outline.answers)⟩ := by
  have promptFilled : ∀ line ∈ outline.prompt, line ≠ [] :=
    fun line member => (canonical.promptLines line member).filled
  have optionFilled : ∀ option ∈ outline.options, ∀ line ∈ option.2, line ≠ [] :=
    fun option member line inside => (canonical.optionLines option member line inside).filled
  obtain ⟨interpreted, filled⟩ := interpret_joined
    (fun answer member => (canonical.answersClean answer member).1) canonical.answersFit
  rw [Block.draft, lines_block canonical, parsed, Reader.run_append, Reader.run_append,
    Reader.run_opening outline.kind promptFilled]
  simp only [Reader.run, List.foldl_cons, List.foldl_nil, Reader.step, if_neg filled]
  rw [← Reader.run, Draft.setAnswer, Reader.draft_run_options _ optionFilled, interpreted]
  rfl

theorem ofBlock_block : Question.ofBlock outline.block = .ok outline.question := by
  have prompted : Text.join "\n" outline.prompt ≠ [] := by
    rw [Ne, Text.join_eq_nil_iff fun line member => (canonical.promptLines line member).filled]
    exact canonical.promptFilled
  have optioned (required : outline.kind.requiresOptions = true) :
      outline.options.map choice ≠ [] := by
    rw [Ne, List.map_eq_nil_iff]
    apply canonical.optionsFilled
    revert required
    cases outline.kind <;> decide
  rw [Question.ofBlock, if_neg (trim_block_ne_nil outline), draft_block canonical,
    Draft.finish_eq_ok_iff,
    Draft.settlePrompt_eq_self prompted (by simpa using canonical.optionsNotOne)]
  exact ⟨rfl, prompted, answers_ne_nil canonical.answersFit, optioned⟩

omit canonical

-- Ids that look like keywords, lines that look like directives and an option without a text.
def keywordLike : Outline :=
  ⟨.sort, ["Arrange", "--the steps:"],
    [("Typewriter", ["first", "--"]), ("Quest", []), ("Answ er", ["last"])],
    ["Quest", "Typewriter", "Answ er"]⟩

theorem ofBlock_keywordLike :
    keywordLike.Canonical ∧ Question.ofBlock keywordLike.block = .ok keywordLike.question :=
  ⟨by decide, ofBlock_block (by decide)⟩

end Outline

end PlainQuiz.Block
