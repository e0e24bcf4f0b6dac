import PlainQuiz.Proofs.Markdown.Fences

set_option autoImplicit false

namespace PlainQuiz.Markdown

-- The lines of a document are counted from one.
def lineAt? (markdown : Text) (number : Nat) : Option Text := (Text.lines markdown)[number - 1]?

theorem lineAt?_below {markdown : Text} {above lines : List Text}
    (whole : Text.lines markdown = above ++ lines) (index : Nat) :
    lineAt? markdown (above.length + 1 + index) = lines[index]? := by
  have place : above.length + 1 + index - 1 = above.length + index := by omega
  rw [lineAt?, whole, place, List.getElem?_append_right (by omega), Nat.add_sub_cancel_left]

-- How many empty lines stand at the front of the body of a block.
def skippedLines (markdown : Text) (block : Block) : Nat :=
  (((Text.lines markdown).drop (block.line - 1)).takeWhile (· = [])).length

theorem exists_body_of_mem_blocks {markdown : Text} {block : Block}
    (member : block ∈ blocks markdown) :
    ∃ above body below, Text.lines markdown = above ++ (body ++ below) ∧
      block = ⟨above.length + 1, bodyText body⟩ := by
  obtain ⟨parts, layout, same⟩ := exists_layout (Text.lines markdown)
  rw [blocks_eq_partBlocks layout same] at member
  obtain ⟨before, opening, body, closing, after, rfl, -, rfl⟩ :=
    exists_fence_of_mem_partBlocks member
  refine ⟨partLines before ++ [opening], body, closing.toList ++ partLines after, ?_, ?_⟩
  · rw [← same, partLines_append, partLines_fence, List.append_assoc, List.singleton_append]
  · rw [List.length_append, List.length_singleton, Nat.add_comm 1]

-- The lines of a source, with the empty lines between them and the opening of their fence.
theorem exists_source_of_mem_blocks {markdown : Text} {block : Block}
    (member : block ∈ blocks markdown) (filled : block.source ≠ []) :
    ∃ above empty first rest below,
      Text.lines markdown = above ++ (empty ++ (first :: rest ++ below)) ∧
        (∀ line ∈ empty, line = []) ∧ first ≠ [] ∧ block.line = above.length + 1 ∧
          block.source.splitOn '\n' = first :: rest := by
  obtain ⟨above, body, below, whole, rfl⟩ := exists_body_of_mem_blocks member
  have noBreak : ∀ line ∈ body, '\n' ∉ line := by
    intro line inside
    have listed : line ∈ Text.lines markdown := by simp [whole, inside]
    exact Text.newline_not_mem_lines listed
  have cut := splitOn_bodyText noBreak filled
  have parted : body.takeWhile (· = []) ++ body.dropWhile (· = []) = body :=
    List.takeWhile_append_dropWhile
  cases kept : body.dropWhile (· = []) with
  | nil => exact absurd (by rw [bodyText, kept]; rfl) filled
  | cons first rest =>
    have solid : first ≠ [] := by
      have stops := List.head?_dropWhile_not (· = []) body
      simpa [kept] using stops
    refine ⟨above, body.takeWhile (· = []), first, rest, below, ?_, fun line member => ?_, solid,
      rfl, cut.trans kept⟩
    · rw [← kept, ← List.append_assoc (List.takeWhile _ _), parted, whole]
    · simpa using List.mem_takeWhile_imp member

/-- Each line of a source stands in the document as far below the number of its block as its place
in the source and the empty lines at the front of the body say, so the number fits when there are
no such lines and only then. -/
theorem lineAt?_source_line {markdown : Text} {block : Block} (member : block ∈ blocks markdown)
    (filled : block.source ≠ []) :
    (∀ index line, (block.source.splitOn '\n')[index]? = some line →
      lineAt? markdown (block.line + skippedLines markdown block + index) = some line) ∧
    ((∀ index line, (block.source.splitOn '\n')[index]? = some line →
      lineAt? markdown (block.line + index) = some line) ↔
        lineAt? markdown block.line ≠ some []) := by
  obtain ⟨above, empty, first, rest, below, whole, blank, solid, number, cut⟩ :=
    exists_source_of_mem_blocks member filled
  have skipped : skippedLines markdown block = empty.length := by
    rw [skippedLines, number, whole, Nat.add_sub_cancel, List.drop_left,
      List.takeWhile_append_of_pos (by simpa using blank), List.cons_append,
      List.takeWhile_cons_of_neg (by simpa using solid), List.append_nil]
  have placed (index : Nat) (line : Text) (here : (first :: rest)[index]? = some line) :
      lineAt? markdown (block.line + empty.length + index) = some line := by
    have within := (List.getElem?_eq_some_iff.mp here).1
    rw [number, Nat.add_assoc, lineAt?_below whole, List.getElem?_append_right (by omega),
      Nat.add_sub_cancel_left, List.getElem?_append_left within, here]
  have top : lineAt? markdown block.line = (empty ++ (first :: rest ++ below))[0]? := by
    simpa [number] using lineAt?_below whole 0
  rw [cut, skipped, top]
  refine ⟨placed, ?_⟩
  -- The first line of a source is not empty, so an empty line cannot be it.
  cases empty with
  | nil => simpa [solid] using placed
  | cons line more =>
    obtain rfl : line = [] := blank line List.mem_cons_self
    refine iff_of_false (fun aligned => ?_) (by simp)
    have same := aligned 0 first rfl
    rw [Nat.add_zero, top] at same
    exact solid (Option.some.inj same).symm

def indented : Text := "# Quiz\n```quiz\n\n \n-- Question Q\n\n-- Answer x\n```"

def indentedBlock : Block := ⟨3, " \n-- Question Q\n\n-- Answer x"⟩

-- Only the line without any character is skipped.
theorem lineAt?_source_line_indented :
    indentedBlock ∈ blocks indented ∧ indentedBlock.source ≠ [] ∧
      skippedLines indented indentedBlock = 1 ∧
      (indentedBlock.source.splitOn '\n')[3]? = some ("-- Answer x" : Text) ∧
      lineAt? indented (3 + 1 + 3) = some ("-- Answer x" : Text) := by
  have member : indentedBlock ∈ blocks indented := by decide
  have filled : indentedBlock.source ≠ [] := by decide
  have skipped : skippedLines indented indentedBlock = 1 := by decide
  have last : (indentedBlock.source.splitOn '\n')[3]? = some ("-- Answer x" : Text) := by decide
  obtain ⟨placed, -⟩ := lineAt?_source_line member filled
  exact ⟨member, filled, skipped, last, placed 3 "-- Answer x" last⟩

def blankFirst : Text := "```quiz\n\n-- Question Q\n```"

def blankFirstBlock : Block := ⟨2, "-- Question Q"⟩

theorem blankFirst_misnumbered :
    blankFirstBlock ∈ blocks blankFirst ∧ blankFirstBlock.source ≠ [] ∧
      (blankFirstBlock.source.splitOn '\n')[0]? = some ("-- Question Q" : Text) ∧
      lineAt? blankFirst (blankFirstBlock.line + 0) = some [] ∧
      lineAt? blankFirst (blankFirstBlock.line + 1) = some ("-- Question Q" : Text) := by
  decide

end PlainQuiz.Markdown
