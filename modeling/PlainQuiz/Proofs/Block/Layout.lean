import PlainQuiz.Proofs.Block.Feed
import PlainQuiz.Proofs.Block.Shape

set_option autoImplicit false

namespace PlainQuiz

namespace Block

theorem contentLines_eq_nil_iff {source : Text} :
    contentLines source = [] ↔ Text.trim source = [] := by
  rw [Text.trim_eq_nil_iff, ← Text.isBlank_lines_iff]
  simp [contentLines, Text.trim_eq_nil_iff]

theorem contentLines_join {body : List Text} (whole : ∀ line ∈ body, '\n' ∉ line) :
    contentLines (Text.join "\n" body) = (body.map Text.trim).filter (· ≠ []) :=
  Text.trimmed_lines_join whole

end Block

theorem Question.ofBlock_congr {source other : Text}
    (same : Block.contentLines source = Block.contentLines other) :
    Question.ofBlock source = Question.ofBlock other := by
  have blank : Text.trim source = [] ↔ Text.trim other = [] := by
    rw [← Block.contentLines_eq_nil_iff, same, Block.contentLines_eq_nil_iff]
  simp only [Question.ofBlock, Block.draft, Block.lines, same, blank]

namespace Block

-- A carriage return in front of a line feed is one of the blanks.
structure IsMargin (blanks : Text) : Prop where
  blank : ∀ c ∈ blanks, Text.isBlank c = true
  whole : '\n' ∉ blanks

inductive IsRow : List Text → Text → Prop
  | empty {margin : Text} (blank : IsMargin margin) : IsRow [] margin
  | filled {before line after : Text} (start : IsMargin before) (valid : line.IsLine)
    (finish : IsMargin after) : IsRow [line] (before ++ line ++ after)

inductive LaysOut : List Text → Text → Prop
  | last {lines : List Text} {row : Text} (valid : IsRow lines row) : LaysOut lines row
  | above {lines body : List Text} {row rest : Text} (valid : IsRow lines row)
    (below : LaysOut body rest) : LaysOut (lines ++ body) (row ++ '\n' :: rest)

theorem isRow_iff {lines : List Text} {row : Text} :
    IsRow lines row ↔ '\n' ∉ row ∧ [Text.trim row].filter (· ≠ []) = lines := by
  constructor
  · rintro (⟨blank⟩ | ⟨start, valid, finish⟩)
    · exact ⟨blank.whole, by simp [Text.trim_eq_nil_iff.mpr blank.blank]⟩
    · refine ⟨by simp [start.whole, valid.whole, finish.whole], ?_⟩
      rw [Text.trim_append_blank start.blank finish.blank, valid.trimmed]
      simp [valid.filled]
  · rintro ⟨whole, rfl⟩
    obtain ⟨before, after, blankBefore, blankAfter, same⟩ := Text.exists_blank_ends row
    by_cases blank : Text.trim row = []
    · simpa [blank] using IsRow.empty ⟨Text.trim_eq_nil_iff.mp blank, whole⟩
    · have apart : '\n' ∉ before ∧ '\n' ∉ Text.trim row ∧ '\n' ∉ after := by
        rw [same] at whole
        simpa using whole
      have valid : (Text.trim row).IsLine := ⟨⟨Text.trim_trim row, apart.2.1⟩, blank⟩
      have row := IsRow.filled ⟨blankBefore, apart.1⟩ valid ⟨blankAfter, apart.2.2⟩
      rw [List.append_assoc, ← same] at row
      simpa [blank] using row

theorem contentLines_of_newline_not_mem {row : Text} (whole : '\n' ∉ row) :
    contentLines row = [Text.trim row].filter (· ≠ []) := by
  by_cases empty : row = []
  · subst empty
    rfl
  · rw [contentLines, Text.lines_of_newline_not_mem empty whole, List.map_singleton]

theorem contentLines_append_newline {row : Text} (whole : '\n' ∉ row) (rest : Text) :
    contentLines (row ++ '\n' :: rest) = [Text.trim row].filter (· ≠ []) ++ contentLines rest :=
  Text.filter_map_trim_lines whole rest

theorem contentLines_of_laysOut {body : List Text} {source : Text} (laid : LaysOut body source) :
    contentLines source = body := by
  induction laid with
  | last valid =>
    obtain ⟨whole, same⟩ := isRow_iff.mp valid
    rw [contentLines_of_newline_not_mem whole, same]
  | above valid _ ih =>
    obtain ⟨whole, same⟩ := isRow_iff.mp valid
    rw [contentLines_append_newline whole, same, ih]

theorem laysOut_contentLines (source : Text) : LaysOut (contentLines source) source := by
  by_cases whole : '\n' ∈ source
  · obtain ⟨row, rest, shape, first⟩ := List.eq_append_cons_of_mem whole
    have shorter : rest.length < source.length := by
      rw [shape, List.length_append, List.length_cons]
      omega
    have below := laysOut_contentLines rest
    rw [shape, contentLines_append_newline first]
    exact .above (isRow_iff.mpr ⟨first, rfl⟩) below
  · rw [contentLines_of_newline_not_mem whole]
    exact .last (isRow_iff.mpr ⟨whole, rfl⟩)
termination_by source.length

theorem laysOut_iff {body : List Text} {source : Text} :
    LaysOut body source ↔ contentLines source = body :=
  ⟨contentLines_of_laysOut, fun same => same ▸ laysOut_contentLines source⟩

theorem Draft.finish_ne_empty (draft : Draft) : draft.finish ≠ .error .empty := by
  unfold finish
  dsimp only
  split_ifs <;> simp

theorem Reader.feedAll_filter_trim (reader : Reader) (raws : List Text) :
    reader.feedAll ((raws.map Text.trim).filter (· ≠ [])) = reader.feedAll raws := by
  induction raws generalizing reader with
  | nil => rfl
  | cons raw rest ih =>
    by_cases blank : Text.trim raw = []
    · rw [feedAll_cons (feed_blank blank), ← ih reader]
      simp [blank]
    · have kept : ((raw :: rest).map Text.trim).filter (· ≠ []) =
          Text.trim raw :: (rest.map Text.trim).filter (· ≠ []) := by simp [blank]
      rw [kept, feedAll, feedAll, List.foldlM_cons, List.foldlM_cons, feed_trim]
      exact congrArg _ (funext ih)

def feedBlock (source : Text) : Except Fault (Except BlockError Question) :=
  if Text.trim source = [] then .ok (.error .empty)
  else (Reader.start.feedAll (Text.lines source)).map (·.draft.finish)

theorem feedBlock_eq_ofBlock (source : Text) :
    feedBlock source = .ok (Question.ofBlock source) := by
  rw [feedBlock, Question.ofBlock, Reader.feedAll_eq_run Reader.isSound_start]
  split_ifs
  · rfl
  · rfl

end Block

open Block

namespace Question

theorem ofBlock_eq_empty_iff {source : Text} :
    ofBlock source = .error .empty ↔ contentLines source = [] := by
  rw [contentLines_eq_nil_iff, ofBlock]
  split_ifs with blank
  · simp [blank]
  · simp [blank, Draft.finish_ne_empty]

theorem contentLines_join_contentLines (source : Text) :
    contentLines (Text.join "\n" (contentLines source)) = contentLines source := by
  have trimmed : (contentLines source).map Text.trim = contentLines source := by
    rw [List.map_congr_left fun _ => trim_of_mem_contentLines, List.map_id']
  have filled : (contentLines source).filter (· ≠ []) = contentLines source :=
    List.filter_eq_self.mpr fun _ member => decide_eq_true (ne_nil_of_mem_contentLines member)
  rw [contentLines_join fun _ member => newline_not_mem_contentLines member, trimmed, filled]

/--
Blocks that lay out the same lines are the same question or the same error, which is that of an
empty block if there are no such lines; written one under the other, the lines are such a block.
-/
theorem ofBlock_of_layout :
    (∀ source, feedBlock source = .ok (ofBlock source)) ∧
    (∀ source other, contentLines source = contentLines other → ofBlock source = ofBlock other) ∧
    (∀ body source, LaysOut body source ↔ contentLines source = body) ∧
    (∀ source, ofBlock source = .error .empty ↔ contentLines source = []) ∧
    (∀ source, ofBlock (Text.join "\n" (contentLines source)) = ofBlock source) ∧
    ∀ (reader : Reader) (raws others : List Text),
      (raws.map Text.trim).filter (· ≠ []) = (others.map Text.trim).filter (· ≠ []) →
        reader.feedAll raws = reader.feedAll others := by
  refine ⟨feedBlock_eq_ofBlock, fun _ _ => ofBlock_congr, fun _ _ => laysOut_iff,
    fun _ => ofBlock_eq_empty_iff,
    fun source => ofBlock_congr (contentLines_join_contentLines source),
    fun reader raws others same => ?_⟩
  rw [← reader.feedAll_filter_trim raws, same, reader.feedAll_filter_trim]

-- Indented, with blank lines and carriage returns, and a final newline in one of them only.
def spacedBlock : Text :=
  "\r\n  -- Type text\r\n\n\t\u2003Why?\u00a0\n-- Answer\r\n\n so \r\n\n"

def tightBlock : Text := "-- Type text\nWhy?\n-- Answer\nso"

theorem ofBlock_spacedBlock :
    spacedBlock ≠ tightBlock ∧ ofBlock spacedBlock = ofBlock tightBlock ∧
      ofBlock spacedBlock = .ok ⟨.freeText, "Why?", [], ["so"], "so"⟩ := by
  obtain ⟨-, same, -, -, -, -⟩ := ofBlock_of_layout
  have laid : ofBlock spacedBlock = ofBlock tightBlock := same _ _ (by decide)
  exact ⟨by decide, laid, laid.trans (by decide)⟩

end Question

end PlainQuiz
