import PlainQuiz.Document
import PlainQuiz.Proofs.Block.Layout
import PlainQuiz.Proofs.Markdown.Layout

set_option autoImplicit false

namespace PlainQuiz

open Markdown (Part IsLayout partLines partBlocks opensQuiz closesFence bodyText)

namespace Document

structure Block.Moved (removed added : Nat) (kept moved : Block) : Prop where
  line : moved.line + removed = kept.line + added
  result : moved.result = kept.result
  warnings : moved.warnings.map (·.2) = kept.warnings.map (·.2)

theorem Block.moved_of_result {removed added : Nat} {kept moved : Block}
    (line : moved.line + removed = kept.line + added) (result : moved.result = kept.result) :
    Block.Moved removed added kept moved := by
  refine ⟨line, result, ?_⟩
  rw [warnings, result, warnings]
  cases kept.result with
  | ok question => simp [Function.comp_def]
  | error error => rfl

def blocksOf (number : Nat) (parts : List Part) : List Block :=
  (partBlocks number parts).map Block.ofSource

theorem blocks_ofText {path : Path} {content : Text} {parts : List Part}
    (markdown : isMarkdown path = true) (layout : IsLayout parts)
    (same : partLines parts = Text.lines content) :
    (ofText path content).blocks = blocksOf 1 parts := by
  rw [ofText, sources, if_pos markdown, Markdown.blocks_eq_partBlocks layout same, blocksOf]

theorem blocksOf_moved {number place removed added : Nat}
    (moved : place + removed = number + added) (parts : List Part) :
    List.Forall₂ (Block.Moved removed added) (blocksOf number parts) (blocksOf place parts) := by
  rw [blocksOf, blocksOf, List.forall₂_map_left_iff, List.forall₂_map_right_iff]
  refine (Markdown.partBlocks_moved moved parts).imp fun kept block ⟨line, source⟩ => ?_
  exact Block.moved_of_result line (by rw [Block.ofSource, source, Block.ofSource])

-- Empty lines at the front of a body are no part of its text, but they would not count either.
theorem ofBlock_bodyText {body : List Text} (whole : ∀ line ∈ body, '\n' ∉ line) :
    Question.ofBlock (bodyText body) = Question.ofBlock (Text.join "\n" body) := by
  have kept : ∀ line ∈ body.dropWhile (· = []), '\n' ∉ line :=
    fun line member => whole line ((List.dropWhile_sublist _).mem member)
  apply Question.ofBlock_congr
  rw [bodyText, Block.contentLines_join whole]
  refine (Block.contentLines_join kept).trans ?_
  clear kept whole
  induction body with
  | nil => rfl
  | cons line body ih =>
    by_cases empty : line = []
    · subst empty
      exact ih
    · rw [List.dropWhile_cons_of_neg (by simpa using empty)]

theorem blocks_ofText_fence {path : Path} {content opening : Text} {before after : List Part}
    {body : List Text} {closing : Option Text} (markdown : isMarkdown path = true)
    (layout : IsLayout (before ++ .fence opening body closing :: after))
    (same : partLines (before ++ .fence opening body closing :: after) = Text.lines content)
    (quiz : opensQuiz opening = true) (whole : ∀ line ∈ body, '\n' ∉ line) :
    (ofText path content).blocks =
      blocksOf 1 before ++
        ⟨(partLines before).length + 2, Question.ofBlock (Text.join "\n" body)⟩ ::
          blocksOf (1 + (partLines before).length +
            (Part.fence opening body closing).lines.length) after := by
  rw [blocks_ofText markdown layout same, ← ofBlock_bodyText whole]
  simp [blocksOf, Markdown.partBlocks_append, partBlocks, Part.blocks, quiz, Block.ofSource,
    Nat.add_comm 1]

theorem blocks_isolated :
    (∀ content, ∃ parts, IsLayout parts ∧ partLines parts = Text.lines content) ∧
    ∀ (path : Path) (content : Text) (before after : List Part) (opening : Text)
        (body newBody : List Text) (closing : Option Text),
      isMarkdown path = true → IsLayout (before ++ .fence opening body closing :: after) →
      partLines (before ++ .fence opening body closing :: after) = Text.lines content →
      opensQuiz opening = true →
      (∀ line ∈ newBody, '\n' ∉ line ∧ closesFence line = false) →
      let newLines := partLines (before ++ .fence opening newBody closing :: after)
      (∃ edited, newLines = Text.lines edited) ∧
        ∀ edited, newLines = Text.lines edited → ∃ above below movedBelow,
          (ofText path content).blocks = above ++
            ⟨(partLines before).length + 2, Question.ofBlock (Text.join "\n" body)⟩ :: below ∧
          (ofText path edited).blocks = above ++
            ⟨(partLines before).length + 2, Question.ofBlock (Text.join "\n" newBody)⟩ ::
              movedBelow ∧
          List.Forall₂ (Block.Moved body.length newBody.length) below movedBelow := by
  refine ⟨fun content => Markdown.exists_layout _, ?_⟩
  intro path content before after opening body newBody closing markdown layout same quiz clean
    newLines
  have newLayout := layout.replace_body fun line member => (clean line member).2
  have newWhole : ∀ line ∈ newBody, '\n' ∉ line := fun line member => (clean line member).1
  have whole : ∀ line ∈ partLines (before ++ .fence opening body closing :: after), '\n' ∉ line :=
    fun line member => Text.newline_not_mem_lines (same ▸ member)
  simp only [partLines, List.flatMap_append, List.flatMap_cons, Part.lines, List.forall_mem_append,
    List.forall_mem_cons] at whole
  obtain ⟨above, ⟨opens, inside, closes⟩, below⟩ := whole
  refine ⟨?written, fun edited newSame => ?blocks⟩
  case written =>
    have newlyWhole : ∀ line ∈ newLines, '\n' ∉ line := by
      simp only [newLines, partLines, List.flatMap_append, List.flatMap_cons, Part.lines,
        List.forall_mem_append, List.forall_mem_cons]
      exact ⟨above, ⟨opens, newWhole, closes⟩, below⟩
    obtain ⟨edited, cut⟩ := Text.exists_lines_eq_iff.mpr newlyWhole
    exact ⟨edited, cut.symm⟩
  case blocks =>
    have moved : 1 + (partLines before).length + (Part.fence opening newBody closing).lines.length +
        body.length = 1 + (partLines before).length +
          (Part.fence opening body closing).lines.length + newBody.length := by
      simp only [Part.lines, List.length_cons, List.length_append]
      omega
    exact ⟨_, _, _, blocks_ofText_fence markdown layout same quiz inside,
      blocks_ofText_fence markdown newLayout newSame quiz newWhole, blocksOf_moved moved after⟩

def draftBody : List Text := ["-- Question Q"]

-- The line that looks like another opening belongs to the body.
def finalBody : List Text := ["", "```quiz", "-- Type text", "-- Question Q", "-- Answer x"]

def lessonEnd : List Part :=
  [.plain "More:", .fence "```quiz" ["-- Type text", "-- Question R", "-- Answer y"] none]

def lesson (body : List Text) : List Part :=
  [.plain "# Lesson"] ++ .fence " ```` Quiz" body (some "```") :: lessonEnd

def lessonText (body : List Text) : Text := Text.join "\n" (partLines (lesson body))

theorem blocks_isolated_lesson :
    isMarkdown "lesson.md" = true ∧ IsLayout (lesson draftBody) ∧
      partLines (lesson draftBody) = Text.lines (lessonText draftBody) ∧
      opensQuiz " ```` Quiz" = true ∧
      (∀ line ∈ finalBody, '\n' ∉ line ∧ closesFence line = false) ∧
      partLines (lesson finalBody) = Text.lines (lessonText finalBody) ∧
      ∃ above below movedBelow,
        (ofText "lesson.md" (lessonText draftBody)).blocks =
          above ++ ⟨3, Question.ofBlock (Text.join "\n" draftBody)⟩ :: below ∧
        (ofText "lesson.md" (lessonText finalBody)).blocks =
          above ++ ⟨3, Question.ofBlock (Text.join "\n" finalBody)⟩ :: movedBelow ∧
        List.Forall₂ (Block.Moved 1 5) below movedBelow := by
  have markdown : isMarkdown "lesson.md" = true := by decide
  have layout : IsLayout (lesson draftBody) :=
    .cons (.plain (by decide)) trivial (.cons (.fence (by decide) (by decide) (by decide))
      (by simp [Part.IsClosed]) (.cons (.plain (by decide)) trivial
        (.singleton (.fence (by decide) (by decide) (by decide)))))
  have same : partLines (lesson draftBody) = Text.lines (lessonText draftBody) := by decide
  have clean : ∀ line ∈ finalBody, '\n' ∉ line ∧ closesFence line = false := by decide
  have newSame : partLines (lesson finalBody) = Text.lines (lessonText finalBody) := by decide
  have quiz : opensQuiz " ```` Quiz" = true := by decide
  obtain ⟨-, isolated⟩ := blocks_isolated
  obtain ⟨-, results⟩ := isolated "lesson.md" (lessonText draftBody) [.plain "# Lesson"] lessonEnd
    " ```` Quiz" draftBody finalBody (some "```") markdown layout same quiz clean
  exact ⟨markdown, layout, same, quiz, clean, newSame, results (lessonText finalBody) newSame⟩

end Document

end PlainQuiz
