import Mathlib.Data.List.Forall2
import Mathlib.Data.List.Induction
import PlainQuiz.Block.Reader
import PlainQuiz.Proofs.Block.Line

set_option autoImplicit false

namespace PlainQuiz.Block

structure IsContentLine (line : Text) : Prop where
  trimmed : Text.trim line = line
  filled : line ≠ []
  whole : '\n' ∉ line
  content : isDirective line = false

structure IsOptionId (id : Text) : Prop where
  trimmed : Text.trim id = id
  filled : id ≠ []
  whole : '\n' ∉ id
  notKind : ¬ ("Type " : Text) <+: id
  notPrompt : ¬ ("Question" : Text) <+: id
  notAnswer : Text.sameIgnoringAsciiCase (id.take 6) "answer" = false

instance (line : Text) : Decidable (IsContentLine line) :=
  decidable_of_iff (Text.trim line = line ∧ line ≠ [] ∧ '\n' ∉ line ∧ isDirective line = false)
    ⟨fun ⟨trimmed, filled, whole, content⟩ => ⟨trimmed, filled, whole, content⟩,
      fun ⟨trimmed, filled, whole, content⟩ => ⟨trimmed, filled, whole, content⟩⟩

instance (id : Text) : Decidable (IsOptionId id) :=
  decidable_of_iff
    ((Text.trim id = id ∧ id ≠ [] ∧ '\n' ∉ id) ∧ ¬ ("Type " : Text) <+: id ∧
      ¬ ("Question" : Text) <+: id ∧ Text.sameIgnoringAsciiCase (id.take 6) "answer" = false)
    ⟨fun ⟨⟨trimmed, filled, whole⟩, rest⟩ => ⟨trimmed, filled, whole, rest.1, rest.2.1, rest.2.2⟩,
      fun valid => ⟨⟨valid.trimmed, valid.filled, valid.whole⟩, valid.notKind, valid.notPrompt,
        valid.notAnswer⟩⟩

structure Outline where
  kind : Kind
  prompt : List Text
  options : List (Text × List Text)
  answers : List Text

namespace Outline

def optionLines (option : Text × List Text) : List Text := (("-- " : Text) ++ option.1) :: option.2

def lines (outline : Outline) : List Text :=
  (("-- Type " : Text) ++ outline.kind.tag) :: "-- Question" :: outline.prompt ++
    outline.options.flatMap optionLines ++
    [("-- Answer " : Text) ++ Text.join ", " outline.answers]

def block (outline : Outline) : Text := Text.join "\n" outline.lines

def choice (option : Text × List Text) : Choice := ⟨option.1, Text.join "\n" option.2⟩

def question (outline : Outline) : Question :=
  ⟨outline.kind, Text.join "\n" outline.prompt, outline.options.map choice, outline.answers,
    Text.trim (Text.join ", " outline.answers)⟩

def AnswersFit (kind : Kind) (gaps : Nat) (answers : List Text) : Prop :=
  if kind = .trueFalse then answers = [("true" : Text)] ∨ answers = [("false" : Text)]
  else if kind = .fillBlank ∧ gaps ≤ 1 then answers.length = 1 ∧ [] ∉ answers
  else answers ≠ [] ∧ answers ≠ [[]] ∧ ∀ answer ∈ answers, ',' ∉ answer

instance (kind : Kind) (gaps : Nat) (answers : List Text) :
    Decidable (AnswersFit kind gaps answers) :=
  inferInstanceAs (Decidable (ite _ _ (ite _ _ _)))

structure Canonical (outline : Outline) : Prop where
  promptFilled : outline.prompt ≠ []
  promptLines : ∀ line ∈ outline.prompt, IsContentLine line
  optionIds : ∀ option ∈ outline.options, IsOptionId option.1
  optionLines : ∀ option ∈ outline.options, ∀ line ∈ option.2, IsContentLine line
  optionsFilled : outline.kind = .multipleChoice ∨ outline.kind = .sort → outline.options ≠ []
  optionsNotOne : outline.kind = .trueFalse ∨ outline.kind = .freeText → outline.options.length ≠ 1
  answersClean : ∀ answer ∈ outline.answers, Text.trim answer = answer ∧ '\n' ∉ answer
  answersFit :
    AnswersFit outline.kind (Prompt.countGaps (Text.join "\n" outline.prompt)) outline.answers

instance (outline : Outline) : Decidable outline.Canonical :=
  decidable_of_iff
    ((outline.prompt ≠ [] ∧ ∀ line ∈ outline.prompt, IsContentLine line) ∧
      ((∀ option ∈ outline.options, IsOptionId option.1) ∧
        ∀ option ∈ outline.options, ∀ line ∈ option.2, IsContentLine line) ∧
      ((outline.kind = .multipleChoice ∨ outline.kind = .sort → outline.options ≠ []) ∧
        (outline.kind = .trueFalse ∨ outline.kind = .freeText → outline.options.length ≠ 1)) ∧
      (∀ answer ∈ outline.answers, Text.trim answer = answer ∧ '\n' ∉ answer) ∧
      AnswersFit outline.kind (Prompt.countGaps (Text.join "\n" outline.prompt)) outline.answers)
    ⟨fun ⟨prompt, options, count, answers⟩ =>
      ⟨prompt.1, prompt.2, options.1, options.2, count.1, count.2, answers.1, answers.2⟩,
      fun valid => ⟨⟨valid.1, valid.2⟩, ⟨valid.3, valid.4⟩, ⟨valid.5, valid.6⟩, valid.7, valid.8⟩⟩

end Outline

structure Reads (text : Text) (parsed : Line) : Prop where
  whole : '\n' ∉ text
  filled : Text.trim text ≠ []
  read : Line.ofText (Text.trim text) = parsed

theorem lines_join {texts : List Text} {parsed : List Line}
    (reads : List.Forall₂ Reads texts parsed) : lines (Text.join "\n" texts) = parsed := by
  have whole : ∀ text ∈ texts, '\n' ∉ text :=
    ((List.forall₂_and_left texts parsed).mp (reads.imp fun _ _ read => ⟨read.whole, read⟩)).1
  rw [lines, contentLines, Text.trimmed_lines_join whole]
  clear whole
  induction reads with
  | nil => rfl
  | cons first _ ih =>
    rw [List.map_cons, List.filter_cons_of_pos (by simpa using first.filled), List.map_cons,
      first.read, ih]

theorem reads_kind (kind : Kind) : Reads (("-- Type " : Text) ++ kind.tag) (.kind kind.tag) := by
  cases kind <;> exact ⟨by decide, by decide, by decide⟩

theorem reads_prompt : Reads "-- Question" (.prompt []) := ⟨by decide, by decide, by decide⟩

theorem reads_content {line : Text} (valid : IsContentLine line) : Reads line (.content line) := by
  refine ⟨valid.whole, ?_, ?_⟩
  · rw [valid.trimmed]
    exact valid.filled
  · rw [valid.trimmed]
    exact ofText_content valid.content

theorem isOption_marker_append {id : Text} (valid : IsOptionId id) :
    isOption (("-- " : Text) ++ id) = true := by
  have notKind : isKind (("-- " : Text) ++ id) = false := by
    rw [isKind, ← Bool.not_eq_true, List.isPrefixOf_iff_prefix]
    exact fun starts => valid.notKind ((List.prefix_append_right_inj ("-- " : Text)).mp starts)
  have notPrompt : isPrompt (("-- " : Text) ++ id) = false := by
    rw [isPrompt, ← Bool.not_eq_true, List.isPrefixOf_iff_prefix]
    exact fun starts => valid.notPrompt ((List.prefix_append_right_inj ("-- " : Text)).mp starts)
  have notAnswer : isAnswer (("-- " : Text) ++ id) = false := valid.notAnswer
  have directive : isDirective (("-- " : Text) ++ id) = true := rfl
  rw [isOption, directive, notKind, notPrompt, notAnswer]
  rfl

theorem reads_option {id : Text} (valid : IsOptionId id) :
    Reads (("-- " : Text) ++ id) (.option id) := by
  have solid : Text.trim (("-- " : Text) ++ id) = ("-- " : Text) ++ id := by
    apply Text.trim_eq_self
    · intro c first
      obtain rfl := Option.some.inj first
      rfl
    · intro c last
      rw [List.getLast?_append_of_ne_nil _ valid.filled, ← valid.trimmed] at last
      exact Text.getLast?_trim last
  refine ⟨?_, ?_, ?_⟩
  · rw [List.mem_append]
    exact fun inside => inside.elim (by decide) valid.whole
  · rw [solid]
    exact List.cons_ne_nil _ _
  · rw [solid, ofText_option (isOption_marker_append valid)]
    exact congrArg Line.option valid.trimmed

theorem reads_answer {text : Text} (whole : '\n' ∉ text) :
    Reads (("-- Answer " : Text) ++ text) (.answer (Text.trim text)) := by
  have first : ∀ c ∈ ("-- Answer" : Text).head?, Text.isBlank c = false := by
    intro c first
    obtain rfl := Option.some.inj first
    rfl
  have last : ∀ c ∈ ("-- Answer" : Text).getLast?, Text.isBlank c = false := by
    intro c last
    obtain rfl := Option.some.inj last
    rfl
  have solid : Text.trim (("-- Answer " : Text) ++ text) =
      ("-- Answer" : Text) ++ Text.trimEnd (' ' :: text) :=
    Text.trim_append_solid "-- Answer" (by decide) first last (' ' :: text)
  refine ⟨?_, ?_, ?_⟩
  · rw [List.mem_append]
    exact fun inside => inside.elim (by decide) whole
  · rw [solid]
    exact List.cons_ne_nil _ _
  · rw [solid, ofText_answer rfl rfl]
    refine congrArg Line.answer ?_
    exact (Text.trim_trimEnd (' ' :: text)).trans (Text.trim_cons_blank rfl text)

namespace Outline

def parsedOption (option : Text × List Text) : List Line :=
  .option option.1 :: option.2.map .content

def parsed (outline : Outline) : List Line :=
  .kind outline.kind.tag :: .prompt [] :: outline.prompt.map .content ++
    outline.options.flatMap parsedOption ++
    [.answer (Text.trim (Text.join ", " outline.answers))]

theorem reads_contents {texts : List Text} (valid : ∀ text ∈ texts, IsContentLine text) :
    List.Forall₂ Reads texts (texts.map .content) := by
  rw [List.forall₂_map_right_iff, List.forall₂_same]
  exact fun text member => reads_content (valid text member)

theorem reads_options {options : List (Text × List Text)}
    (ids : ∀ option ∈ options, IsOptionId option.1)
    (contents : ∀ option ∈ options, ∀ line ∈ option.2, IsContentLine line) :
    List.Forall₂ Reads (options.flatMap optionLines) (options.flatMap parsedOption) := by
  induction options with
  | nil => exact .nil
  | cons option rest ih =>
    refine List.rel_append (.cons (reads_option (ids option (by simp))) ?_) (ih ?_ ?_)
    · exact reads_contents (contents option (by simp))
    · exact fun next member => ids next (List.mem_cons_of_mem option member)
    · exact fun next member => contents next (List.mem_cons_of_mem option member)

theorem newline_not_mem_answers {answers : List Text} (whole : ∀ answer ∈ answers, '\n' ∉ answer) :
    '\n' ∉ Text.join ", " answers := by
  intro member
  rcases Text.mem_of_mem_join member with separator | ⟨answer, among, inside⟩
  · exact absurd separator (by decide)
  · exact whole answer among inside

theorem lines_block {outline : Outline} (canonical : outline.Canonical) :
    Block.lines outline.block = outline.parsed := by
  apply lines_join
  have whole : '\n' ∉ Text.join ", " outline.answers :=
    newline_not_mem_answers fun answer member => (canonical.answersClean answer member).2
  refine List.rel_append (List.rel_append (.cons (reads_kind _) (.cons reads_prompt ?_)) ?_)
    (.cons (reads_answer whole) .nil)
  · exact reads_contents canonical.promptLines
  · exact reads_options canonical.optionIds canonical.optionLines

end Outline

end PlainQuiz.Block
