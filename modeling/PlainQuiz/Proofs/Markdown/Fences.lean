import Mathlib.Logic.ExistsUnique
import PlainQuiz.Proofs.Markdown.Layout
import PlainQuiz.Proofs.Text.Lines

set_option autoImplicit false

namespace PlainQuiz.Markdown

theorem takeWhile_body {body rest : List Text} (inside : ∀ line ∈ body, closesFence line = false)
    (ends : ∀ line ∈ rest.head?, closesFence line = true) :
    (body ++ rest).takeWhile (!closesFence ·) = body := by
  rw [List.takeWhile_append_of_pos (by simpa using inside)]
  cases rest with
  | nil => simp
  | cons line rest => simp [ends line rfl]

theorem partLines_eq_nil_iff {parts : List Part} : partLines parts = [] ↔ parts = [] := by
  cases parts with
  | nil => simp [partLines]
  | cons part rest => cases part <;> simp [partLines_cons, Part.lines]

section Fence

variable {opening : Text} {body : List Text} {closing : Option Text} {rest : List Part}

theorem partLines_fence :
    partLines (.fence opening body closing :: rest) =
      opening :: (body ++ (closing.toList ++ partLines rest)) := by
  simp [partLines_cons, Part.lines]

variable (layout : IsLayout (.fence opening body closing :: rest))

include layout

theorem IsLayout.inside : ∀ line ∈ body, closesFence line = false := by
  cases layout.valid _ List.mem_cons_self with
  | fence _ inside => exact inside

theorem IsLayout.nothing_below (unclosed : closing = none) : partLines rest = [] := by
  cases rest with
  | nil => rfl
  | cons next rest =>
    have closed := (List.pairwise_cons.mp layout.closed).1 next List.mem_cons_self
    exact absurd unclosed closed

theorem IsLayout.ends :
    ∀ line ∈ (closing.toList ++ partLines rest).head?, closesFence line = true := by
  cases closing with
  | none => simp [layout.nothing_below rfl]
  | some line =>
    cases layout.valid _ List.mem_cons_self with
    | fence _ _ closes => simpa using closes line rfl

theorem IsLayout.fence_unique {otherOpening : Text} {otherBody : List Text}
    {otherClosing : Option Text} {more : List Part}
    (other : IsLayout (.fence otherOpening otherBody otherClosing :: more))
    (same : body ++ (closing.toList ++ partLines rest) =
      otherBody ++ (otherClosing.toList ++ partLines more)) :
    body = otherBody ∧ closing = otherClosing ∧ partLines rest = partLines more := by
  -- Both bodies end at the first line that closes a fence.
  have bodies : body = otherBody := by
    rw [← takeWhile_body layout.inside layout.ends, same, takeWhile_body other.inside other.ends]
  subst bodies
  have below := List.append_cancel_left same
  refine ⟨rfl, ?_⟩
  cases closing with
  | none =>
    rw [layout.nothing_below rfl] at below ⊢
    cases otherClosing with
    | none => exact ⟨rfl, below⟩
    | some line => simp at below
  | some line =>
    cases otherClosing with
    | none => simp [other.nothing_below rfl] at below
    | some otherLine => simpa using below

end Fence

theorem IsLayout.unique {parts others : List Part} (layout : IsLayout parts)
    (other : IsLayout others) (same : partLines parts = partLines others) : parts = others := by
  induction parts generalizing others with
  | nil => exact (partLines_eq_nil_iff.mp same.symm).symm
  | cons part rest ih =>
    cases others with
    | nil => exact partLines_eq_nil_iff.mp same
    | cons next more =>
      -- The line that both start with opens a fence in both or in neither.
      cases layout.valid part List.mem_cons_self with
      | plain outside =>
        cases other.valid next List.mem_cons_self with
        | plain =>
          obtain ⟨rfl, later⟩ := List.cons.inj same
          rw [ih layout.tail other.tail later]
        | fence opens =>
          obtain ⟨rfl, -⟩ := List.cons.inj same
          simp [outside] at opens
      | fence opens =>
        cases other.valid next List.mem_cons_self with
        | plain outside =>
          obtain ⟨rfl, -⟩ := List.cons.inj same
          simp [outside] at opens
        | fence =>
          rw [partLines_fence, partLines_fence] at same
          obtain ⟨rfl, below⟩ := List.cons.inj same
          obtain ⟨rfl, rfl, later⟩ := layout.fence_unique other below
          rw [ih layout.tail other.tail later]

def Part.quizBody? : Part → Option (List Text)
  | plain _ => none
  | fence opening body _ => if opensQuiz opening then some body else none

theorem Part.map_source_blocks (number : Nat) (part : Part) :
    (part.blocks number).map (·.source) = part.quizBody?.toList.map bodyText := by
  cases part with
  | plain line => rfl
  | fence opening body closing =>
    rw [blocks, quizBody?]
    split_ifs <;> rfl

theorem map_source_partBlocks (number : Nat) (parts : List Part) :
    (partBlocks number parts).map (·.source) =
      (parts.filterMap Part.quizBody?).map bodyText := by
  induction parts generalizing number with
  | nil => rfl
  | cons part rest ih =>
    rw [partBlocks, List.map_append, ih, Part.map_source_blocks, ← List.map_append]
    cases quiz : part.quizBody? <;> simp [quiz]

theorem length_partBlocks (number : Nat) (parts : List Part) :
    (partBlocks number parts).length = (parts.filterMap Part.quizBody?).length := by
  simpa using congrArg List.length (map_source_partBlocks number parts)

theorem getElem?_partBlocks {number : Nat} {before after : List Part} {opening : Text}
    {body : List Text} {closing : Option Text} (quiz : opensQuiz opening = true) :
    (partBlocks number (before ++ .fence opening body closing :: after))[
        (before.filterMap Part.quizBody?).length]? =
      some ⟨number + (partLines before).length + 1, bodyText body⟩ := by
  rw [partBlocks_append, ← length_partBlocks number, List.getElem?_append_right le_rfl, partBlocks]
  simp [Part.blocks, quiz]

theorem exists_fence_of_mem_partBlocks {number : Nat} {parts : List Part} {block : Block}
    (member : block ∈ partBlocks number parts) :
    ∃ before opening body closing after,
      parts = before ++ Part.fence opening body closing :: after ∧ opensQuiz opening = true ∧
        block = ⟨number + (partLines before).length + 1, bodyText body⟩ := by
  induction parts generalizing number with
  | nil => simp [partBlocks] at member
  | cons part rest ih =>
    rcases List.mem_append.mp member with here | later
    · cases part with
      | plain line => simp [Part.blocks] at here
      | fence opening body closing =>
        rw [Part.blocks] at here
        split_ifs at here with quiz
        · obtain rfl := List.mem_singleton.mp here
          exact ⟨[], opening, body, closing, rest, rfl, quiz, rfl⟩
        · simp at here
    · obtain ⟨before, opening, body, closing, after, rfl, quiz, rfl⟩ := ih later
      refine ⟨part :: before, opening, body, closing, after, rfl, quiz, ?_⟩
      rw [partLines_cons, List.length_append, Nat.add_assoc number]

theorem lt_line_of_mem_partBlocks {number : Nat} {parts : List Part} {block : Block}
    (member : block ∈ partBlocks number parts) : number < block.line := by
  obtain ⟨before, _, _, _, _, _, _, rfl⟩ := exists_fence_of_mem_partBlocks member
  dsimp only
  omega

theorem pairwise_line_partBlocks (number : Nat) (parts : List Part) :
    (partBlocks number parts).Pairwise (·.line < ·.line) := by
  induction parts generalizing number with
  | nil => exact .nil
  | cons part rest ih =>
    cases part with
    | plain line => exact ih _
    | fence opening body closing =>
      rw [partBlocks, Part.blocks]
      split_ifs
      · refine List.pairwise_cons.mpr ⟨fun block member => ?_, ih _⟩
        have below := lt_line_of_mem_partBlocks member
        simp only [Part.lines, List.length_cons] at below
        dsimp only
        omega
      · exact ih _

theorem splitOn_bodyText {body : List Text} (whole : ∀ line ∈ body, '\n' ∉ line)
    (filled : bodyText body ≠ []) :
    (bodyText body).splitOn '\n' = body.dropWhile (· = []) := by
  refine List.splitOn_intercalate '\n' (fun line member => ?_) fun nothing => filled ?_
  · exact whole line ((List.dropWhile_sublist _).mem member)
  · rw [bodyText, nothing]
    rfl

theorem whole_of_mem_quizBodies {markdown : Text} {parts : List Part}
    (same : partLines parts = Text.lines markdown) {body : List Text}
    (member : body ∈ parts.filterMap Part.quizBody?) : ∀ line ∈ body, '\n' ∉ line := by
  intro line inside
  obtain ⟨part, among, quiz⟩ := List.mem_filterMap.mp member
  have listed : line ∈ part.lines := by
    cases part with
    | plain other => simp [Part.quizBody?] at quiz
    | fence opening text closing =>
      rw [Part.quizBody?] at quiz
      split_ifs at quiz
      obtain rfl := Option.some.inj quiz
      simp [Part.lines, inside]
  have cut : line ∈ partLines parts := List.mem_flatMap.mpr ⟨part, among, listed⟩
  exact Text.newline_not_mem_lines (same ▸ cut)

/-- Every text has one layout, and its blocks are the quiz fences of the layout: one for each, in
their order, made of nothing but the body. -/
theorem blocks_follow_layout (markdown : Text) :
    (∃! parts, IsLayout parts ∧ partLines parts = Text.lines markdown) ∧
    ∀ parts, IsLayout parts → partLines parts = Text.lines markdown →
      (blocks markdown).map (·.source) =
        (parts.filterMap Part.quizBody?).map (fun body =>
          Text.join "\n" (body.dropWhile (· = []))) ∧
      (∀ before opening body closing after,
        parts = before ++ .fence opening body closing :: after → opensQuiz opening = true →
        (Text.lines markdown)[(partLines before).length]? = some opening ∧
          (blocks markdown)[(before.filterMap Part.quizBody?).length]? =
            some ⟨(partLines before).length + 2, Text.join "\n" (body.dropWhile (· = []))⟩) ∧
      (blocks markdown).Pairwise (·.line < ·.line) ∧
      ∀ block ∈ blocks markdown, block.source ≠ [] →
        ∃ body ∈ parts.filterMap Part.quizBody?,
          block.source.splitOn '\n' = body.dropWhile (· = []) := by
  refine ⟨?unique, fun parts layout same => ?_⟩
  case unique =>
    obtain ⟨parts, layout, same⟩ := exists_layout (Text.lines markdown)
    exact ⟨parts, ⟨layout, same⟩, fun others ⟨other, also⟩ =>
      other.unique layout (also.trans same.symm)⟩
  rw [blocks_eq_partBlocks layout same]
  have sources := map_source_partBlocks 1 parts
  refine ⟨sources, ?places, pairwise_line_partBlocks 1 parts, ?bodies⟩
  case places =>
    rintro before opening body closing after rfl quiz
    refine ⟨?_, ?_⟩
    · rw [← same, partLines_append, partLines_fence, List.getElem?_append_right le_rfl,
        Nat.sub_self]
      rfl
    · rw [getElem?_partBlocks quiz, Nat.add_comm 1]
      rfl
  case bodies =>
    intro block member filled
    have among : block.source ∈ (parts.filterMap Part.quizBody?).map bodyText :=
      sources ▸ List.mem_map_of_mem member
    obtain ⟨body, quiz, source⟩ := List.mem_map.mp among
    rw [← source] at filled ⊢
    exact ⟨body, quiz, splitOn_bodyText (whole_of_mem_quizBodies same quiz) filled⟩

def nestedFences : List Part :=
  [.plain "intro", .fence "```rust" ["```quiz", "let x"] (some " ``` "),
    .fence "```` QUIZ " ["", "", "-- Question Q", "", "```quiz", "x"] (some "```"),
    .fence "```quiz" [] (some "```"), .plain "``", .fence "```quiz" ["-- Answer"] none]

def nestedText : Text := Text.join "\n" (partLines nestedFences)

-- Openings inside of a body, an empty body and a fence that is not closed.
theorem blocks_follow_layout_nested :
    IsLayout nestedFences ∧ partLines nestedFences = Text.lines nestedText ∧
      (blocks nestedText).map (·.source) = ["-- Question Q\n\n```quiz\nx", "", "-- Answer"] ∧
      (blocks nestedText)[2]? = some ⟨18, "-- Answer"⟩ := by
  have layout : IsLayout nestedFences :=
    .cons (.plain (by decide)) trivial
      (.cons (.fence (by decide) (by decide) (by decide)) (by simp [Part.IsClosed])
        (.cons (.fence (by decide) (by decide) (by decide)) (by simp [Part.IsClosed])
          (.cons (.fence (by decide) (by decide) (by decide)) (by simp [Part.IsClosed])
            (.cons (.plain (by decide)) trivial
              (.singleton (.fence (by decide) (by decide) (by decide)))))))
  have same : partLines nestedFences = Text.lines nestedText := by decide
  obtain ⟨-, follows⟩ := blocks_follow_layout nestedText
  obtain ⟨sources, places, -⟩ := follows nestedFences layout same
  obtain ⟨-, last⟩ := places (nestedFences.take 5) "```quiz" ["-- Answer"] none [] rfl (by decide)
  exact ⟨layout, same, sources, last⟩

end PlainQuiz.Markdown
