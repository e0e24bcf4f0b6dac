import PlainQuiz.Proofs.Block.Finish
import PlainQuiz.Proofs.Block.Step

set_option autoImplicit false

namespace PlainQuiz

namespace Text

structure IsPhrase (text : Text) : Prop where
  trimmed : trim text = text
  whole : '\n' ∉ text

structure IsLine (text : Text) : Prop extends IsPhrase text where
  filled : text ≠ []

def IsParagraph (text : Text) : Prop :=
  ∀ line ∈ text.splitOn '\n', line ≠ [] ∧ trim line = line

theorem IsLine.isParagraph {line : Text} (valid : IsLine line) : IsParagraph line := by
  intro only member
  rw [List.splitOn_eq_singleton valid.whole, List.mem_singleton] at member
  exact member ▸ ⟨valid.filled, valid.trimmed⟩

theorem isParagraph_addLine {text line : Text} (lines : text = [] ∨ IsParagraph text)
    (valid : IsLine line) : IsParagraph (addLine text line) := by
  unfold addLine
  split_ifs with first
  · exact valid.isParagraph
  · intro next member
    rw [List.splitOn_append_cons_self, List.mem_append] at member
    rcases member with earlier | last
    · exact lines.resolve_left first next earlier
    · exact valid.isParagraph next last

theorem isPhrase_trim {text : Text} (whole : '\n' ∉ text) : IsPhrase (trim text) :=
  ⟨trim_trim text, fun inside => whole (mem_of_mem_trim inside)⟩

end Text

theorem Answer.isPhrase_of_mem_interpret {kind : Kind} {prompt text : Text}
    (phrase : text.IsPhrase) {answer : Text} (member : answer ∈ interpret kind prompt text) :
    answer.IsPhrase := by
  refine ⟨trim_of_mem_interpret phrase.trimmed member, fun inside => ?_⟩
  have pieces {piece : Text} (among : piece ∈ Text.splitCommas text) : '\n' ∉ piece :=
    fun inside => phrase.whole (Text.mem_of_mem_splitCommas among inside)
  cases kind with
  | trueFalse =>
    obtain rfl := List.mem_singleton.mp member
    revert inside
    cases truth text <;> decide
  | fillBlank =>
    rw [interpret] at member
    split_ifs at member
    · obtain rfl := List.mem_singleton.mp member
      exact phrase.whole inside
    · exact pieces member inside
  | multipleChoice | freeText | sort => exact pieces member inside

namespace Block

def Line.IsClean : Line → Prop
  | .kind _ => True
  | .prompt text | .answer text => text.IsPhrase
  | .option id => id.IsLine
  | .content text => text.IsLine

theorem isLine_of_mem_contentLines {source line : Text} (member : line ∈ contentLines source) :
    line.IsLine :=
  ⟨⟨trim_of_mem_contentLines member, newline_not_mem_contentLines member⟩,
    ne_nil_of_mem_contentLines member⟩

theorem isPhrase_words (marker : Text) {line : Text} (valid : line.IsLine) :
    (words marker line).IsPhrase :=
  Text.isPhrase_trim fun inside => valid.whole (List.mem_of_mem_drop inside)

theorem isClean_ofText {line : Text} (valid : line.IsLine) : (Line.ofText line).IsClean := by
  by_cases directive : isDirective line = true
  · by_cases names : isKind line = true
    · rw [ofText_kind names]
      trivial
    · by_cases prompts : isPrompt line = true
      · rw [ofText_prompt prompts]
        exact isPhrase_words promptMarker valid
      · by_cases answers : isAnswer line = true
        · rw [ofText_answer directive answers]
          exact isPhrase_words answerMarker valid
        · rw [ofText_option (by simp [isOption, directive, names, prompts, answers])]
          exact ⟨isPhrase_words marker valid, words_ne_nil "--" ' ' rfl directive valid.trimmed⟩
  · rw [ofText_content (Bool.eq_false_iff.mpr directive)]
    exact valid

end Block

structure Choice.IsTidy (choice : Choice) : Prop where
  id : choice.id.IsLine
  text : choice.text = [] ∨ choice.text.IsParagraph

namespace Block

structure Draft.IsTidy (draft : Draft) : Prop where
  prompt : draft.prompt = [] ∨ draft.prompt.IsParagraph
  options : ∀ choice ∈ draft.options, choice.IsTidy
  answers : ∀ answer ∈ draft.answers, answer.IsPhrase
  rawAnswer : draft.answers ≠ [] → draft.rawAnswer.IsLine

namespace Draft.IsTidy

theorem blank : Draft.blank.IsTidy :=
  ⟨.inl rfl, by simp [Draft.blank], by simp [Draft.blank], by simp [Draft.blank]⟩

variable {draft : Draft} (tidy : draft.IsTidy) {text : Text}

include tidy

theorem withPrompt (lines : text = [] ∨ text.IsParagraph) :
    { draft with prompt := text }.IsTidy :=
  ⟨lines, tidy.options, tidy.answers, tidy.rawAnswer⟩

theorem withOptions {options : List Choice} (each : ∀ choice ∈ options, choice.IsTidy) :
    { draft with options := options }.IsTidy :=
  ⟨tidy.prompt, each, tidy.answers, tidy.rawAnswer⟩

theorem setAnswer (valid : text.IsLine) : (draft.setAnswer text).IsTidy :=
  ⟨tidy.prompt, tidy.options,
    fun _ member => Answer.isPhrase_of_mem_interpret valid.toIsPhrase member, fun _ => valid⟩

theorem addOption (valid : text.IsLine) : (draft.addOption text).IsTidy := by
  refine tidy.withOptions fun choice member => ?_
  rcases List.mem_append.mp member with earlier | last
  · exact tidy.options choice earlier
  · obtain rfl := List.mem_singleton.mp last
    exact ⟨valid, .inl rfl⟩

theorem addOptionLine (index : Nat) (valid : text.IsLine) :
    (draft.addOptionLine index text).IsTidy := by
  refine tidy.withOptions fun choice member => ?_
  obtain ⟨place, here⟩ := List.mem_iff_getElem?.mp member
  rw [List.getElem?_modify] at here
  obtain ⟨earlier, among, rfl⟩ := Option.map_eq_some_iff.mp here
  have before := tidy.options earlier (List.mem_of_getElem? among)
  split_ifs with grown
  · exact ⟨before.id, .inr (Text.isParagraph_addLine before.text valid)⟩
  · exact before

theorem settlePrompt : draft.settlePrompt.IsTidy := by
  unfold Draft.settlePrompt
  split
  next first rest _ shape =>
    have first := tidy.options first (by simp [shape])
    split_ifs
    · exact ⟨first.text, fun choice member => tidy.options choice (by simp [shape, member]),
        tidy.answers, tidy.rawAnswer⟩
    · exact tidy
  next only _ shape =>
    exact ⟨(tidy.options only (by simp [shape])).text, by simp, tidy.answers, tidy.rawAnswer⟩
  next only _ shape =>
    exact ⟨(tidy.options only (by simp [shape])).text, by simp, tidy.answers, tidy.rawAnswer⟩
  next => exact tidy

end Draft.IsTidy

theorem Reader.StepsTo.isTidy {reader next : Reader} {line : Line}
    (steps : reader.StepsTo line next) (tidy : reader.draft.IsTidy) (clean : line.IsClean) :
    next.draft.IsTidy := by
  cases steps with
  | namelessKind | barePrompt | bareAnswer | stray => exact tidy
  | kind => exact ⟨tidy.prompt, tidy.options, tidy.answers, tidy.rawAnswer⟩
  | prompt filled => exact tidy.withPrompt (.inr (Text.IsLine.isParagraph ⟨clean, filled⟩))
  | answer filled => exact tidy.setAnswer ⟨clean, filled⟩
  | option => exact tidy.addOption clean
  | promptLine => exact tidy.withPrompt (.inr (Text.isParagraph_addLine tidy.prompt clean))
  | optionLine => exact tidy.addOptionLine _ clean
  | answerLine => exact tidy.setAnswer clean
  | unmarkedPrompt => exact tidy.withPrompt (.inr clean.isParagraph)

theorem Reader.isTidy_run {reader : Reader} (tidy : reader.draft.IsTidy) {lines : List Line}
    (clean : ∀ line ∈ lines, line.IsClean) : (reader.run lines).draft.IsTidy :=
  run_of_stepsTo (·.draft.IsTidy) (fun _ _ _ steps clean tidy => steps.isTidy tidy clean) clean tidy

theorem isTidy_draft (source : Text) : (Reading.draft (contentLines source)).IsTidy := by
  rw [← Reading.draft_eq]
  refine Reader.isTidy_run Draft.IsTidy.blank fun line member => ?_
  obtain ⟨text, among, rfl⟩ := List.mem_map.mp member
  exact isClean_ofText (isLine_of_mem_contentLines among)

theorem Draft.length_options_settlePrompt {draft : Draft}
    (free : draft.kind = .trueFalse ∨ draft.kind = .freeText) :
    draft.settlePrompt.options.length ≠ 1 := by
  unfold Draft.settlePrompt
  split
  next first rest choice _ => simp [choice] at free
  next => simp
  next => simp
  next _ notTruth notText =>
    intro single
    obtain ⟨only, shape⟩ := List.length_eq_one_iff.mp single
    rcases free with truth | text
    · exact notTruth only truth shape
    · exact notText only text shape

end Block

namespace Question

structure WellShaped (question : Question) : Prop where
  promptFilled : question.prompt ≠ []
  promptLines : question.prompt.IsParagraph
  optionIds : ∀ choice ∈ question.options, choice.id.IsLine
  optionTexts : ∀ choice ∈ question.options, choice.text = [] ∨ choice.text.IsParagraph
  answersFilled : question.answers ≠ []
  answers : ∀ answer ∈ question.answers, answer.IsPhrase
  rawAnswer : question.rawAnswer.IsLine
  optionsFilled : question.kind = .multipleChoice ∨ question.kind = .sort → question.options ≠ []
  optionsNotOne :
    question.kind = .trueFalse ∨ question.kind = .freeText → question.options.length ≠ 1
  blanks : question.kind = .fillBlank →
    question.blankCount = max 1 (Prompt.countGaps question.prompt) ∧ 1 ≤ question.blankCount
  noBlanks : question.kind ≠ .fillBlank → question.blankCount = 0

theorem blankCount_of_fillBlank {question : Question} (fill : question.kind = .fillBlank) :
    question.blankCount = max 1 (Prompt.countGaps question.prompt) := by
  simp only [blankCount, fill]

theorem blankCount_of_other {question : Question} (other : question.kind ≠ .fillBlank) :
    question.blankCount = 0 := by
  unfold blankCount
  split
  next fill => exact absurd fill other
  next => rfl

theorem requiresOptions_of_kind {kind : Kind} (required : kind = .multipleChoice ∨ kind = .sort) :
    kind.requiresOptions = true := by
  rcases required with rfl | rfl <;> rfl

theorem isPhrase_of_mem_answers {source : Text} {question : Question}
    (parsed : Question.ofBlock source = .ok question) {answer : Text}
    (member : answer ∈ question.answers) : answer.IsPhrase := by
  obtain ⟨rfl, _⟩ := Block.Draft.finish_eq_ok_iff.mp (Block.finish_of_ofBlock parsed)
  exact (Block.isTidy_draft source).answers answer member

theorem wellShaped_of_ofBlock {source : Text} {question : Question}
    (parsed : Question.ofBlock source = .ok question) : question.WellShaped := by
  obtain ⟨rfl, prompted, answered, optioned⟩ :=
    Block.Draft.finish_eq_ok_iff.mp (Block.finish_of_ofBlock parsed)
  have drafted := Block.isTidy_draft source
  have settled := drafted.settlePrompt
  exact {
    promptFilled := prompted
    promptLines := settled.prompt.resolve_left prompted
    optionIds := fun choice member => (settled.options choice member).id
    optionTexts := fun choice member => (settled.options choice member).text
    answersFilled := answered
    answers := drafted.answers
    rawAnswer := drafted.rawAnswer answered
    optionsFilled := fun required => optioned (requiresOptions_of_kind required)
    optionsNotOne := Block.Draft.length_options_settlePrompt
    blanks := fun fill => ⟨blankCount_of_fillBlank fill, blankCount_pos fill⟩
    noBlanks := blankCount_of_other }

-- The text of the only option, spread over indented lines, becomes the prompt.
def onlyOption : Text :=
  "-- Answer  WAHR \n  -- Statement\n  The sun\n\n\t is a star. \r\n-- Type tf"

def onlyOptionQuestion : Question :=
  ⟨.trueFalse, "The sun\nis a star.", [], [("WAHR" : Text)], "WAHR"⟩

theorem wellShaped_onlyOption :
    Question.ofBlock onlyOption = .ok onlyOptionQuestion ∧ onlyOptionQuestion.WellShaped := by
  have parsed : Question.ofBlock onlyOption = .ok onlyOptionQuestion := by decide +kernel
  exact ⟨parsed, wellShaped_of_ofBlock parsed⟩

end Question

end PlainQuiz
