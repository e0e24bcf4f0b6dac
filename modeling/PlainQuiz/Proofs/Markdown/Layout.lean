import Mathlib.Data.List.Forall2
import PlainQuiz.Markdown

set_option autoImplicit false

namespace PlainQuiz.Markdown

inductive Part where
  | plain (line : Text)
  -- A fence that the text does not close has no closing line.
  | fence (opening : Text) (body : List Text) (closing : Option Text)
  deriving DecidableEq, Repr

namespace Part

def lines : Part → List Text
  | plain line => [line]
  | fence opening body closing => opening :: (body ++ closing.toList)

inductive IsValid : Part → Prop
  | plain {line : Text} (outside : opensFence line = false) : IsValid (plain line)
  | fence {opening : Text} {body : List Text} {closing : Option Text}
    (opens : opensFence opening = true) (inside : ∀ line ∈ body, closesFence line = false)
    (closes : ∀ line ∈ closing, closesFence line = true) : IsValid (fence opening body closing)

def IsClosed : Part → Prop
  | plain _ => True
  | fence _ _ closing => closing ≠ none

-- `number` is the number of the first line of the part.
def blocks (number : Nat) : Part → List Block
  | plain _ => []
  | fence opening body _ => if opensQuiz opening then [⟨number + 1, bodyText body⟩] else []

end Part

def partLines (parts : List Part) : List Text := parts.flatMap Part.lines

theorem partLines_cons (part : Part) (rest : List Part) :
    partLines (part :: rest) = part.lines ++ partLines rest :=
  List.flatMap_cons

theorem partLines_append (before after : List Part) :
    partLines (before ++ after) = partLines before ++ partLines after :=
  List.flatMap_append

def partBlocks (number : Nat) : List Part → List Block
  | [] => []
  | part :: rest => part.blocks number ++ partBlocks (number + part.lines.length) rest

-- Only the last part may be a fence that is not closed.
structure IsLayout (parts : List Part) : Prop where
  valid : ∀ part ∈ parts, part.IsValid
  closed : parts.Pairwise fun part _ => part.IsClosed

theorem IsLayout.nil : IsLayout [] := ⟨by simp, .nil⟩

theorem IsLayout.singleton {part : Part} (valid : part.IsValid) : IsLayout [part] :=
  ⟨List.forall_mem_singleton.mpr valid, List.pairwise_singleton _ _⟩

theorem IsLayout.cons {part : Part} {rest : List Part} (valid : part.IsValid)
    (closed : part.IsClosed) (layout : IsLayout rest) : IsLayout (part :: rest) :=
  ⟨List.forall_mem_cons.mpr ⟨valid, layout.valid⟩,
    List.pairwise_cons.mpr ⟨fun _ _ => closed, layout.closed⟩⟩

theorem IsLayout.tail {part : Part} {rest : List Part} (layout : IsLayout (part :: rest)) :
    IsLayout rest :=
  ⟨(List.forall_mem_cons.mp layout.valid).2, (List.pairwise_cons.mp layout.closed).2⟩

theorem IsLayout.replace_body {before after : List Part} {opening : Text}
    {body newBody : List Text} {closing : Option Text}
    (layout : IsLayout (before ++ .fence opening body closing :: after))
    (inside : ∀ line ∈ newBody, closesFence line = false) :
    IsLayout (before ++ .fence opening newBody closing :: after) := by
  constructor
  next =>
    obtain ⟨above, here, below⟩ := by
      simpa only [List.forall_mem_append, List.forall_mem_cons] using layout.valid
    cases here with
    | fence opens _ closes =>
      simpa only [List.forall_mem_append, List.forall_mem_cons] using
        ⟨above, .fence opens inside closes, below⟩
  next =>
    have closed := layout.closed
    simp only [List.pairwise_append, List.pairwise_cons, List.forall_mem_cons] at closed ⊢
    exact closed

theorem exists_layout_from (lines : List Text) :
    (∃ parts, IsLayout parts ∧ partLines parts = lines) ∧
      ∀ opening body, opensFence opening = true → (∀ line ∈ body, closesFence line = false) →
        ∃ parts, IsLayout parts ∧ partLines parts = opening :: (body ++ lines) := by
  induction lines with
  | nil =>
    refine ⟨⟨[], .nil, rfl⟩, fun opening body opens inside => ?_⟩
    exact ⟨[.fence opening body none], .singleton (.fence opens inside (by simp)),
      by simp [partLines, Part.lines]⟩
  | cons line rest ih =>
    obtain ⟨⟨parts, layout, same⟩, resume⟩ := ih
    refine ⟨?outside, ?inside⟩
    case outside =>
      cases opens : opensFence line with
      | true => simpa using resume line [] opens (by simp)
      | false =>
        exact ⟨.plain line :: parts, .cons (.plain opens) trivial layout,
          by simp [partLines, Part.lines, ← same]⟩
    case inside =>
      intro opening body opens inside
      cases closes : closesFence line with
      | true =>
        refine ⟨.fence opening body (some line) :: parts, .cons ?_ (by simp [Part.IsClosed]) layout,
          by simp [partLines, Part.lines, ← same]⟩
        exact .fence opens inside (by simpa using closes)
      | false =>
        have longer : ∀ other ∈ body ++ [line], closesFence other = false := by
          simpa [or_imp, forall_and, closes] using inside
        simpa using resume opening (body ++ [line]) opens longer

theorem exists_layout (lines : List Text) :
    ∃ parts, IsLayout parts ∧ partLines parts = lines := (exists_layout_from lines).1

theorem scan_body (number : Nat) (fence : Fence) {body : List Text}
    (inside : ∀ line ∈ body, closesFence line = false) (rest : List Text) :
    scan number (some fence) (body ++ rest) =
      scan (number + body.length) (some { fence with body := body.reverse ++ fence.body })
        rest := by
  induction body generalizing number fence with
  | nil => rfl
  | cons line body ih =>
    obtain ⟨here, later⟩ := List.forall_mem_cons.mp inside
    rw [List.cons_append, scan, if_neg (by simp [here]), ih _ _ later]
    simp [Fence.addLine, Nat.add_assoc, Nat.add_comm 1]

-- Behind a fence that is not closed there is nothing.
theorem scan_part (number : Nat) {part : Part} (valid : part.IsValid) {rest : List Text}
    (closed : rest ≠ [] → part.IsClosed) :
    scan number none (part.lines ++ rest) =
      part.blocks number ++ scan (number + part.lines.length) none rest := by
  cases valid with
  | plain outside =>
    rw [Part.lines, List.singleton_append, scan, if_neg (by simp [outside])]
    rfl
  | @fence opening body closing opens inside closes =>
    rw [Part.lines, List.cons_append, scan, if_pos opens, List.append_assoc,
      scan_body _ _ inside]
    cases closing with
    | some closing =>
      rw [Option.toList_some, List.singleton_append, scan, if_pos (closes closing rfl)]
      simp [Fence.block, Part.blocks, Nat.add_comm, Nat.add_left_comm]
    | none =>
      cases rest with
      | nil => simp [scan, Fence.block, Part.blocks]
      | cons line rest => exact absurd rfl (closed (by simp))

theorem scan_partLines (number : Nat) {parts : List Part} (layout : IsLayout parts) :
    scan number none (partLines parts) = partBlocks number parts := by
  induction parts generalizing number with
  | nil => rfl
  | cons part rest ih =>
    have closed : partLines rest ≠ [] → part.IsClosed := by
      intro more
      cases rest with
      | nil => exact absurd rfl more
      | cons next rest => exact (List.pairwise_cons.mp layout.closed).1 next (by simp)
    rw [partLines_cons, scan_part number (layout.valid part (by simp)) closed, ih _ layout.tail,
      partBlocks]

theorem blocks_eq_partBlocks {markdown : Text} {parts : List Part} (layout : IsLayout parts)
    (same : partLines parts = Text.lines markdown) : blocks markdown = partBlocks 1 parts := by
  rw [blocks, ← same, scan_partLines 1 layout]

theorem partBlocks_append (number : Nat) (before after : List Part) :
    partBlocks number (before ++ after) =
      partBlocks number before ++ partBlocks (number + (partLines before).length) after := by
  induction before generalizing number with
  | nil => rfl
  | cons part before ih =>
    rw [List.cons_append, partBlocks, ih, partBlocks, List.append_assoc]
    rw [partLines_cons, List.length_append, Nat.add_assoc]

theorem partBlocks_moved {number place removed added : Nat}
    (moved : place + removed = number + added) (parts : List Part) :
    List.Forall₂ (fun kept block => block.line + removed = kept.line + added ∧
      block.source = kept.source) (partBlocks number parts) (partBlocks place parts) := by
  induction parts generalizing number place with
  | nil => exact .nil
  | cons part rest ih =>
    refine List.rel_append ?_ (ih (by omega))
    cases part with
    | plain line => exact .nil
    | fence opening body closing =>
      simp only [Part.blocks]
      split
      next => exact .cons ⟨by dsimp only; omega, rfl⟩ .nil
      next => exact .nil

end PlainQuiz.Markdown
