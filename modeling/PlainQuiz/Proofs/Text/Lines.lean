import PlainQuiz.Proofs.Text.Trim
import PlainQuiz.Text.Basic

set_option autoImplicit false

namespace PlainQuiz.Text

@[simp] theorem join_singleton (separator piece : Text) : join separator [piece] = piece := by
  simp [join]

theorem join_cons_cons (separator piece next : Text) (pieces : List Text) :
    join separator (piece :: next :: pieces) =
      piece ++ (separator ++ join separator (next :: pieces)) := by
  simp [join]

theorem mem_of_mem_join {separator : Text} {pieces : List Text} {c : Char}
    (member : c ∈ join separator pieces) : c ∈ separator ∨ ∃ piece ∈ pieces, c ∈ piece := by
  induction pieces with
  | nil => simp [join] at member
  | cons piece pieces ih =>
    cases pieces with
    | nil => exact .inr ⟨piece, by simp, by simpa using member⟩
    | cons next pieces =>
      rw [join_cons_cons, List.mem_append, List.mem_append] at member
      rcases member with here | inside | later
      · exact .inr ⟨piece, by simp, here⟩
      · exact .inl inside
      · exact (ih later).imp_right fun ⟨other, among, here⟩ =>
          ⟨other, List.mem_cons_of_mem piece among, here⟩

theorem mem_join_of_mem {separator piece : Text} {pieces : List Text} (member : piece ∈ pieces)
    {c : Char} (inside : c ∈ piece) : c ∈ join separator pieces := by
  induction pieces with
  | nil => simp at member
  | cons first pieces ih =>
    cases pieces with
    | nil =>
      obtain rfl := List.mem_singleton.mp member
      simpa using inside
    | cons next pieces =>
      rw [join_cons_cons, List.mem_append, List.mem_append]
      rcases List.mem_cons.mp member with rfl | later
      · exact .inl inside
      · exact .inr (.inr (ih later))

theorem join_eq_nil_iff {separator : Text} {pieces : List Text}
    (filled : ∀ piece ∈ pieces, piece ≠ []) : join separator pieces = [] ↔ pieces = [] := by
  cases pieces with
  | nil => simp [join]
  | cons piece pieces =>
    have solid := filled piece (by simp)
    cases pieces <;> simp [join_cons_cons, solid]

theorem join_concat {pieces : List Text} (filled : ∀ piece ∈ pieces, piece ≠ []) (line : Text) :
    join "\n" (pieces ++ [line]) = addLine (join "\n" pieces) line := by
  unfold addLine
  induction pieces with
  | nil => simp [join]
  | cons piece pieces ih =>
    have later := ih fun line member => filled line (List.mem_cons_of_mem piece member)
    rw [if_neg (by simp [join_eq_nil_iff filled])]
    cases pieces with
    | nil => simp [join_cons_cons]
    | cons next pieces =>
      rw [if_neg (by
        simp [join_eq_nil_iff fun line member => filled line (List.mem_cons_of_mem piece member)])]
        at later
      rw [List.cons_append] at later ⊢
      rw [List.cons_append, join_cons_cons, later, join_cons_cons]
      simp

-- An empty line alone looks like no line once it is joined.
theorem splitOn_join {pieces : List Text} (whole : ∀ piece ∈ pieces, '\n' ∉ piece) :
    (join "\n" pieces).splitOn '\n' = if pieces = [] then [[]] else pieces := by
  split_ifs with none
  · rw [none]
    rfl
  · exact List.splitOn_intercalate '\n' whole none

theorem join_inj {pieces others : List Text} (whole : ∀ piece ∈ pieces, '\n' ∉ piece)
    (wholeOthers : ∀ piece ∈ others, '\n' ∉ piece) (first : pieces.head? ≠ some [])
    (firstOther : others.head? ≠ some []) (same : join "\n" pieces = join "\n" others) :
    pieces = others := by
  have cut := congrArg (List.splitOn '\n') same
  rw [splitOn_join whole, splitOn_join wholeOthers] at cut
  split_ifs at cut with none noneOther noneOther
  · rw [none, noneOther]
  · simp [← cut] at firstOther
  · simp [cut] at first
  · exact cut

theorem newline_not_mem_lines {text line : Text} (member : line ∈ lines text) : '\n' ∉ line := by
  induction text using lines.induct generalizing line with
  | case1 => simp [lines] at member
  | case2 rest ih | case3 rest ih =>
    rcases List.mem_cons.mp (by simpa [lines] using member) with rfl | later
    · simp
    · exact ih later
  | case4 c rest noReturn noBreak ih =>
    rw [lines.eq_4 c rest noReturn noBreak] at member
    have other : '\n' ≠ c := fun same => noBreak same.symm
    cases shape : lines rest with
    | nil =>
      rw [shape, consFirst, List.mem_singleton] at member
      simpa [member] using other
    | cons first more =>
      rw [shape, consFirst, List.mem_cons] at member
      rcases member with rfl | later
      · simp [other, ih (show first ∈ lines rest by simp [shape])]
      · exact ih (by simp [shape, later])

theorem lines_of_newline_not_mem {text : Text} (filled : text ≠ []) (whole : '\n' ∉ text) :
    lines text = [text] := by
  induction text using lines.induct with
  | case1 => exact absurd rfl filled
  | case2 rest | case3 rest => simp at whole
  | case4 c rest noReturn noBreak ih =>
    rw [lines.eq_4 c rest noReturn noBreak]
    cases rest with
    | nil => rfl
    | cons d rest =>
      rw [ih (by simp) (fun later => whole (List.mem_cons_of_mem c later))]
      rfl

-- A carriage return that ends a line belongs to the line break.
theorem lines_append_newline {line : Text} (whole : '\n' ∉ line) (rest : Text) :
    ∃ kept, lines (line ++ '\n' :: rest) = kept :: lines rest ∧
      (line = kept ∨ line = kept ++ ['\r']) := by
  induction line with
  | nil => exact ⟨[], rfl, .inl rfl⟩
  | cons c line ih =>
    have noBreak : c ≠ '\n' := fun same => whole (by simp [same])
    obtain ⟨kept, cut, same⟩ := ih (fun later => whole (List.mem_cons_of_mem c later))
    by_cases ends : c = '\r' ∧ line = []
    · obtain ⟨rfl, rfl⟩ := ends
      exact ⟨[], rfl, .inr rfl⟩
    · refine ⟨c :: kept, ?_, by simpa using same⟩
      have noReturn (later : List Char) (carriage : c = '\r')
          (shape : line ++ '\n' :: rest = '\n' :: later) : False := by
        cases line with
        | nil => exact ends ⟨carriage, rfl⟩
        | cons d line =>
          injection shape with same
          exact whole (by simp [same])
      rw [List.cons_append, lines.eq_4 c _ noReturn noBreak, cut]
      rfl

-- Behind a line that ends in a carriage return, a line feed alone would take it away.
theorem lines_append_break {line : Text} (whole : '\n' ∉ line) (rest : Text) :
    lines (line ++ '\r' :: '\n' :: rest) = line :: lines rest := by
  induction line with
  | nil => rfl
  | cons c line ih =>
    have noBreak : c ≠ '\n' := fun same => whole (by simp [same])
    have later : '\n' ∉ line := fun inside => whole (List.mem_cons_of_mem c inside)
    have noReturn (after : List Char) (_ : c = '\r')
        (shape : line ++ '\r' :: '\n' :: rest = '\n' :: after) : False := by
      cases line with
      | nil => simp at shape
      | cons d line =>
        injection shape with same
        exact later (by simp [same])
    rw [List.cons_append, lines.eq_4 c _ noReturn noBreak, ih later]
    rfl

theorem exists_lines_eq_iff {pieces : List Text} :
    (∃ text, lines text = pieces) ↔ ∀ piece ∈ pieces, '\n' ∉ piece := by
  constructor
  · rintro ⟨text, rfl⟩ piece member
    exact newline_not_mem_lines member
  · intro whole
    induction pieces with
    | nil => exact ⟨[], rfl⟩
    | cons piece pieces ih =>
      obtain ⟨here, later⟩ := List.forall_mem_cons.mp whole
      obtain ⟨rest, same⟩ := ih later
      exact ⟨piece ++ '\r' :: '\n' :: rest, by rw [lines_append_break here, same]⟩

theorem isBlank_consFirst_iff {c : Char} {pieces : List Text} :
    (∀ line ∈ consFirst c pieces, ∀ d ∈ line, isBlank d = true) ↔
      isBlank c = true ∧ ∀ line ∈ pieces, ∀ d ∈ line, isBlank d = true := by
  cases pieces with
  | nil => simp [consFirst]
  | cons line more => simp [consFirst, and_assoc]

theorem isBlank_lines_iff {text : Text} :
    (∀ line ∈ lines text, ∀ c ∈ line, isBlank c = true) ↔ ∀ c ∈ text, isBlank c = true := by
  have feed : isBlank '\n' = true := by decide
  have carriage : isBlank '\r' = true := by decide
  induction text using lines.induct with
  | case1 => simp [lines]
  | case2 rest ih => simpa [lines, feed, carriage] using ih
  | case3 rest ih => simpa [lines, feed] using ih
  | case4 c rest noReturn noBreak ih =>
    rw [lines.eq_4 c rest noReturn noBreak, isBlank_consFirst_iff, List.forall_mem_cons]
    exact and_congr_right fun _ => ih

theorem filter_map_trim_lines {line : Text} (whole : '\n' ∉ line) (rest : Text) :
    ((lines (line ++ '\n' :: rest)).map trim).filter (· ≠ []) =
      ([trim line].filter (· ≠ [])) ++ ((lines rest).map trim).filter (· ≠ []) := by
  obtain ⟨kept, cut, same⟩ := lines_append_newline whole rest
  have trimmed : trim line = trim kept := by
    rcases same with rfl | rfl
    · rfl
    · exact trim_concat_blank rfl kept
  rw [cut, trimmed, ← List.filter_append]
  rfl

theorem trimmed_lines_join {pieces : List Text} (whole : ∀ piece ∈ pieces, '\n' ∉ piece) :
    ((lines (join "\n" pieces)).map trim).filter (· ≠ []) =
      (pieces.map trim).filter (· ≠ []) := by
  induction pieces with
  | nil => rfl
  | cons piece pieces ih =>
    have here := whole piece (by simp)
    cases pieces with
    | nil =>
      by_cases filled : piece = []
      · subst filled
        rfl
      · rw [join_singleton, lines_of_newline_not_mem filled here]
    | cons next pieces =>
      have shape : join "\n" (piece :: next :: pieces) =
          piece ++ '\n' :: join "\n" (next :: pieces) :=
        join_cons_cons _ piece next pieces
      rw [shape, filter_map_trim_lines here,
        ih (fun line member => whole line (List.mem_cons_of_mem piece member)),
        List.map_cons (l := next :: pieces), ← List.filter_append]
      rfl

theorem splitOn_append_of_not_mem {separator : Char} {after : Text} (whole : separator ∉ after)
    (text : Text) :
    ∃ before last, text.splitOn separator = before ++ [last] ∧
      (text ++ after).splitOn separator = before ++ [last ++ after] := by
  induction text with
  | nil => exact ⟨[], [], rfl, by simpa using List.splitOn_eq_singleton whole⟩
  | cons c text ih =>
    obtain ⟨before, last, cut, extended⟩ := ih
    rw [List.cons_append, List.splitOn_cons_eq_if_modifyHead, List.splitOn_cons_eq_if_modifyHead,
      cut, extended]
    by_cases cuts : (c == separator) = true
    · exact ⟨[] :: before, last, by simp [cuts], by simp [cuts]⟩
    · cases before with
      | nil => exact ⟨[], c :: last, by simp [cuts], by simp [cuts]⟩
      | cons first before => exact ⟨(c :: first) :: before, last, by simp [cuts], by simp [cuts]⟩

def trimmedPieces (separator : Char) (text : Text) : List Text :=
  (text.splitOn separator).map trim

section Pieces

variable {separator : Char} (solid : isBlank separator = false)

include solid

theorem trimmedPieces_append_blank {after : Text} (blank : ∀ c ∈ after, isBlank c = true)
    (text : Text) : trimmedPieces separator (text ++ after) = trimmedPieces separator text := by
  have whole : separator ∉ after := fun member => by simp [blank separator member] at solid
  obtain ⟨before, last, cut, extended⟩ := splitOn_append_of_not_mem whole text
  have trimmed : trim ([] ++ last ++ after) = trim last := trim_append_blank (by simp) blank
  rw [List.nil_append] at trimmed
  simp [trimmedPieces, cut, extended, trimmed]

theorem trimmedPieces_cons_blank {c : Char} (blank : isBlank c = true) (text : Text) :
    trimmedPieces separator (c :: text) = trimmedPieces separator text := by
  have other : (c == separator) = false := by
    rw [beq_eq_false_iff_ne]
    rintro rfl
    simp [blank] at solid
  rw [trimmedPieces, List.splitOn_cons_eq_if_modifyHead, if_neg (by simp [other]), trimmedPieces]
  cases text.splitOn separator with
  | nil => rfl
  | cons first more => simp [trim_cons_blank blank]

theorem trimmedPieces_blank_append {before : Text} (blank : ∀ c ∈ before, isBlank c = true)
    (text : Text) : trimmedPieces separator (before ++ text) = trimmedPieces separator text := by
  induction before with
  | nil => rfl
  | cons c before ih =>
    rw [List.cons_append, trimmedPieces_cons_blank solid (blank c (by simp)),
      ih fun d member => blank d (List.mem_cons_of_mem c member)]

theorem trimmedPieces_trim (text : Text) :
    trimmedPieces separator (trim text) = trimmedPieces separator text := by
  obtain ⟨before, after, blankBefore, blankAfter, whole⟩ := exists_blank_ends text
  conv_rhs =>
    rw [whole, trimmedPieces_blank_append solid blankBefore,
      trimmedPieces_append_blank solid blankAfter]

end Pieces

theorem trimmedPieces_join {separator : Char} {pieces : List Text} (filled : pieces ≠ [])
    (whole : ∀ piece ∈ pieces, separator ∉ piece) :
    trimmedPieces separator (join [separator] pieces) = pieces.map trim :=
  congrArg (List.map trim) (List.splitOn_intercalate separator whole filled)

theorem splitCommas_cons_blank {c : Char} (blank : isBlank c = true) (text : Text) :
    splitCommas (c :: text) = splitCommas text :=
  trimmedPieces_cons_blank rfl blank text

theorem splitCommas_trim (text : Text) : splitCommas (trim text) = splitCommas text :=
  trimmedPieces_trim rfl text

theorem splitCommas_join {pieces : List Text} (filled : pieces ≠ [])
    (clean : ∀ piece ∈ pieces, trim piece = piece ∧ ',' ∉ piece) :
    splitCommas (join ", " pieces) = pieces := by
  induction pieces with
  | nil => exact absurd rfl filled
  | cons piece pieces ih =>
    obtain ⟨trimmed, whole⟩ := clean piece (by simp)
    cases pieces with
    | nil =>
      rw [join_singleton, splitCommas, List.splitOn_eq_singleton whole, List.map_singleton, trimmed]
    | cons next pieces =>
      have shape : join ", " (piece :: next :: pieces) =
          piece ++ ',' :: ' ' :: join ", " (next :: pieces) :=
        join_cons_cons _ piece next pieces
      have rest := splitCommas_cons_blank (c := ' ') rfl (join ", " (next :: pieces))
      rw [ih (by simp) fun p member => clean p (List.mem_cons_of_mem piece member)] at rest
      rw [shape, splitCommas, List.splitOn_append_cons_self_of_not_mem whole, List.map_cons,
        trimmed, ← splitCommas, rest]

theorem trim_of_mem_splitCommas {text piece : Text} (member : piece ∈ splitCommas text) :
    trim piece = piece := by
  obtain ⟨cut, _, rfl⟩ := List.mem_map.mp member
  exact trim_trim cut

section SplitOn

variable {separator : Char} {text piece : Text} (member : piece ∈ text.splitOn separator)

include member

theorem mem_of_mem_splitOn {c : Char} (inside : c ∈ piece) : c ∈ text := by
  have whole : [separator].intercalate (text.splitOn separator) = text :=
    List.intercalate_splitOn separator
  rw [← whole]
  exact mem_join_of_mem member inside

theorem separator_not_mem_of_mem_splitOn : separator ∉ piece := by
  induction text generalizing piece with
  | nil =>
    obtain rfl : piece = [] := by simpa using member
    simp
  | cons c rest ih =>
    rw [List.splitOn_cons_eq_if_modifyHead] at member
    split_ifs at member with cuts
    · rcases List.mem_cons.mp member with rfl | later
      · simp
      · exact ih later
    · have other : separator ≠ c := fun same => cuts (by simp [same])
      cases shape : rest.splitOn separator with
      | nil => simp [shape] at member
      | cons first more =>
        rw [shape, List.modifyHead_cons, List.mem_cons] at member
        rcases member with rfl | later
        · simp [other, ih (show first ∈ rest.splitOn separator by simp [shape])]
        · exact ih (by simp [shape, later])

end SplitOn

theorem mem_of_mem_splitCommas {text piece : Text} (member : piece ∈ splitCommas text) {c : Char}
    (inside : c ∈ piece) : c ∈ text := by
  obtain ⟨cut, among, rfl⟩ := List.mem_map.mp member
  exact mem_of_mem_splitOn among (mem_of_mem_trim inside)

theorem separator_not_mem_of_mem_trimmedPieces {separator : Char} {text piece : Text}
    (member : piece ∈ trimmedPieces separator text) : separator ∉ piece := by
  obtain ⟨cut, among, rfl⟩ := List.mem_map.mp member
  exact fun inside => separator_not_mem_of_mem_splitOn among (mem_of_mem_trim inside)

end PlainQuiz.Text
