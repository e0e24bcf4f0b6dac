import PlainQuiz.Block.Line
import PlainQuiz.Proofs.Text.Lines

set_option autoImplicit false

namespace PlainQuiz.Block

def words (marker line : Text) : Text := Text.trim (line.drop marker.length)

def isKind (line : Text) : Bool := kindMarker.isPrefixOf line

def isPrompt (line : Text) : Bool := promptMarker.isPrefixOf line

def isOption (line : Text) : Bool :=
  isDirective line && !isKind line && !isPrompt line && !isAnswer line

def isBarePrompt (line : Text) : Bool := isPrompt line && words promptMarker line == []

def isBareAnswer (line : Text) : Bool := isAnswer line && words answerMarker line == []

theorem exists_append_of_marker {marker line : Text} (starts : marker.isPrefixOf line = true) :
    ∃ rest, line = marker ++ rest := by
  obtain ⟨rest, whole⟩ := List.isPrefixOf_iff_prefix.mp starts
  exact ⟨rest, whole.symm⟩

theorem isDirective_of_isKind {line : Text} (kind : isKind line = true) :
    isDirective line = true := by
  obtain ⟨rest, rfl⟩ := exists_append_of_marker kind
  rfl

theorem isDirective_of_isPrompt {line : Text} (prompt : isPrompt line = true) :
    isDirective line = true := by
  obtain ⟨rest, rfl⟩ := exists_append_of_marker prompt
  rfl

theorem isDirective_of_isOption {line : Text} (option : isOption line = true) :
    isDirective line = true := by
  simp only [isOption, Bool.and_eq_true] at option
  exact option.1.1.1

theorem isOption_of_content {line : Text} (content : isDirective line = false) :
    isOption line = false := by
  simp [isOption, content]

theorem isKind_of_content {line : Text} (content : isDirective line = false) :
    isKind line = false := by
  refine Bool.eq_false_iff.mpr fun kind => ?_
  simp [isDirective_of_isKind kind] at content

theorem isPrompt_of_content {line : Text} (content : isDirective line = false) :
    isPrompt line = false := by
  refine Bool.eq_false_iff.mpr fun prompt => ?_
  simp [isDirective_of_isPrompt prompt] at content

theorem isPrompt_of_isKind {line : Text} (kind : isKind line = true) : isPrompt line = false := by
  obtain ⟨rest, rfl⟩ := exists_append_of_marker kind
  rfl

-- The keywords differ from an answer keyword in their first letter.
theorem isAnswer_of_isKind {line : Text} (kind : isKind line = true) : isAnswer line = false := by
  obtain ⟨rest, rfl⟩ := exists_append_of_marker kind
  rfl

theorem isAnswer_of_isPrompt {line : Text} (prompt : isPrompt line = true) :
    isAnswer line = false := by
  obtain ⟨rest, rfl⟩ := exists_append_of_marker prompt
  rfl

theorem isKind_of_isPrompt {line : Text} (prompt : isPrompt line = true) : isKind line = false := by
  refine Bool.eq_false_iff.mpr fun kind => ?_
  simp [isPrompt_of_isKind kind] at prompt

theorem isKind_of_isAnswer {line : Text} (answer : isAnswer line = true) : isKind line = false := by
  refine Bool.eq_false_iff.mpr fun kind => ?_
  simp [isAnswer_of_isKind kind] at answer

theorem isPrompt_of_isAnswer {line : Text} (answer : isAnswer line = true) :
    isPrompt line = false := by
  refine Bool.eq_false_iff.mpr fun prompt => ?_
  simp [isAnswer_of_isPrompt prompt] at answer

theorem ofText_kind {line : Text} (kind : isKind line = true) :
    Line.ofText line = .kind (words kindMarker line) :=
  if_pos kind

theorem ofText_prompt {line : Text} (prompt : isPrompt line = true) :
    Line.ofText line = .prompt (words promptMarker line) := by
  have notKind := Bool.eq_false_iff.mp (isKind_of_isPrompt prompt)
  exact (if_neg notKind).trans (if_pos prompt)

theorem ofText_content {line : Text} (content : isDirective line = false) :
    Line.ofText line = .content line := by
  have notKind := Bool.eq_false_iff.mp (isKind_of_content content)
  have notPrompt := Bool.eq_false_iff.mp (isPrompt_of_content content)
  exact (if_neg notKind).trans ((if_neg notPrompt).trans (if_neg (by simp [content])))

theorem ofText_answer {line : Text} (directive : isDirective line = true)
    (answer : isAnswer line = true) : Line.ofText line = .answer (words answerMarker line) := by
  have notKind := Bool.eq_false_iff.mp (isKind_of_isAnswer answer)
  have notPrompt := Bool.eq_false_iff.mp (isPrompt_of_isAnswer answer)
  exact (if_neg notKind).trans ((if_neg notPrompt).trans ((if_pos directive).trans (if_pos answer)))

theorem ofText_option {line : Text} (option : isOption line = true) :
    Line.ofText line = .option (words marker line) := by
  simp only [isOption, Bool.and_eq_true, Bool.not_eq_true'] at option
  obtain ⟨⟨⟨directive, notKind⟩, notPrompt⟩, notAnswer⟩ := option
  exact (if_neg (Bool.eq_false_iff.mp notKind)).trans
    ((if_neg (Bool.eq_false_iff.mp notPrompt)).trans
      ((if_pos directive).trans (if_neg (Bool.eq_false_iff.mp notAnswer))))

-- A line without words would end in the blank of the marker.
theorem words_ne_nil (start : Text) (blank : Char) {line : Text}
    (blankEnd : Text.isBlank blank = true) (starts : (start ++ [blank]).isPrefixOf line = true)
    (trimmed : Text.trim line = line) :
    words (start ++ [blank]) line ≠ [] := by
  obtain ⟨rest, rfl⟩ := exists_append_of_marker starts
  intro nothing
  have blankRest : ∀ c ∈ blank :: rest, Text.isBlank c = true := by
    rw [words, List.drop_left, Text.trim_eq_nil_iff] at nothing
    simpa [blankEnd] using nothing
  have last : (blank :: rest).getLast (by simp) ∈ (start ++ [blank] ++ rest).getLast? := by
    simp [List.getLast?_eq_some_getLast]
  rw [← trimmed] at last
  have solid := Text.getLast?_trim last
  rw [blankRest _ (List.getLast_mem _)] at solid
  exact absurd solid (by decide)

theorem words_kind_ne_nil {line : Text} (kind : isKind line = true)
    (trimmed : Text.trim line = line) : words kindMarker line ≠ [] :=
  words_ne_nil "-- Type" ' ' rfl kind trimmed

theorem trim_of_mem_contentLines {source line : Text} (member : line ∈ contentLines source) :
    Text.trim line = line := by
  obtain ⟨whole, _, rfl⟩ := List.mem_map.mp (List.mem_filter.mp member).1
  exact Text.trim_trim whole

theorem ne_nil_of_mem_contentLines {source line : Text} (member : line ∈ contentLines source) :
    line ≠ [] := by
  simpa using (List.mem_filter.mp member).2

theorem newline_not_mem_contentLines {source line : Text} (member : line ∈ contentLines source) :
    '\n' ∉ line := by
  obtain ⟨whole, cut, rfl⟩ := List.mem_map.mp (List.mem_filter.mp member).1
  exact fun inside => Text.newline_not_mem_lines cut (Text.mem_of_mem_trim inside)

end PlainQuiz.Block
