import PlainQuiz.Proofs.Markdown.Fences

set_option autoImplicit false

namespace PlainQuiz.Markdown

def ticks (n : Nat) : Text := List.replicate n backtick

theorem eq_backtick_of_mem_ticks {n : Nat} {c : Char} (member : c ∈ ticks n) : c = backtick :=
  List.eq_of_mem_replicate member

theorem isBlank_of_mem_ticks {n : Nat} {c : Char} (member : c ∈ ticks n) :
    Text.isBlank c = false := by
  rw [eq_backtick_of_mem_ticks member]
  rfl

theorem trim_ticks (n : Nat) : Text.trim (ticks n) = ticks n :=
  Text.trim_eq_self (fun _ first => isBlank_of_mem_ticks (List.mem_of_mem_head? first))
    fun _ last => isBlank_of_mem_ticks (List.mem_of_mem_getLast? last)

theorem ne_ticks {n : Nat} {line : Text}
    (other : line.length < n ∨ line ≠ ticks line.length) : ∀ m, n ≤ m → line ≠ ticks m := by
  rintro m most rfl
  simp only [ticks, List.length_replicate, ne_eq, not_true_eq_false, or_false] at other
  omega

theorem closesFence_ticks_iff {n : Nat} : closesFence (ticks n) = true ↔ n = 3 := by
  rw [closesFence, trim_ticks, beq_iff_eq, fenceMark, ticks]
  exact ⟨fun same => by simpa using congrArg List.length same, fun three => by rw [three]⟩

theorem opensFence_of_closesFence {line : Text} (closes : closesFence line = true) :
    opensFence line = true := by
  rw [opensFence, beq_iff_eq.mp closes]
  rfl

def quizOpening (n : Nat) : Text := ticks n ++ "quiz"

section Opening

variable {n : Nat} (long : 3 ≤ n)

include long

theorem ticks_ne_nil : ticks n ≠ [] := by
  intro nothing
  have none := congrArg List.length nothing
  rw [ticks, List.length_replicate, List.length_nil] at none
  omega

theorem trim_quizOpening : Text.trim (quizOpening n) = quizOpening n :=
  Text.trim_append_solid (ticks n) (ticks_ne_nil long)
    (fun _ first => isBlank_of_mem_ticks (List.mem_of_mem_head? first))
    (fun _ last => isBlank_of_mem_ticks (List.mem_of_mem_getLast? last)) "quiz"

theorem opensFence_quizOpening : opensFence (quizOpening n) = true := by
  rw [opensFence, trim_quizOpening long, List.isPrefixOf_iff_prefix]
  refine ⟨ticks (n - 3) ++ "quiz", ?_⟩
  rw [quizOpening, ← List.append_assoc, fenceMark, ticks, ticks, List.replicate_append_replicate,
    Nat.add_sub_cancel' long]

theorem opensQuiz_quizOpening : opensQuiz (quizOpening n) = true := by
  have marked : ∀ c ∈ ticks n, (c == backtick) = true :=
    fun c member => beq_iff_eq.mpr (eq_backtick_of_mem_ticks member)
  rw [opensQuiz, fenceTag, trim_quizOpening long, quizOpening,
    List.dropWhile_append_of_pos marked]
  decide

end Opening

theorem bodyText_of_first {body : List Text} (first : body.head? ≠ some []) :
    bodyText body = Text.join "\n" body := by
  cases body with
  | nil => rfl
  | cons line rest =>
    have solid : line ≠ [] := fun empty => first (by rw [empty]; rfl)
    rw [bodyText, List.dropWhile_cons_of_neg (by simpa using solid)]
    rfl

theorem scan_outside (number : Nat) {lines : List Text}
    (outside : ∀ line ∈ lines, opensFence line = false) : scan number none lines = [] := by
  induction lines generalizing number with
  | nil => rfl
  | cons line rest ih =>
    obtain ⟨here, later⟩ := List.forall_mem_cons.mp outside
    rw [scan, if_neg (by simp [here]), ih _ later]

section Opened

variable {markdown opening : Text} {rest : List Text} (opens : opensFence opening = true)
  (quiz : opensQuiz opening = true) (same : Text.lines markdown = opening :: rest)

include opens quiz same

theorem blocks_of_opening :
    blocks markdown = ⟨2, bodyText (rest.takeWhile (!closesFence ·))⟩ ::
      scan (2 + (rest.takeWhile (!closesFence ·)).length + 1) none
        (rest.dropWhile (!closesFence ·)).tail := by
  have inside : ∀ line ∈ rest.takeWhile (!closesFence ·), closesFence line = false :=
    fun line member => by simpa using List.mem_takeWhile_imp member
  have stops := List.head?_dropWhile_not (!closesFence ·) rest
  have parted := List.takeWhile_append_dropWhile (p := (!closesFence ·)) (l := rest)
  rw [blocks, same, scan, if_pos opens]
  conv_lhs => rw [← parted, scan_body _ _ inside]
  cases below : rest.dropWhile (!closesFence ·) with
  | nil => simp [scan, Fence.block, quiz]
  | cons closing after =>
    have closes : closesFence closing = true := by simpa [below] using stops
    simp [scan, closes, Fence.block, quiz]

theorem blocks_of_unclosed (inside : ∀ line ∈ rest, closesFence line = false) :
    blocks markdown = [⟨2, bodyText rest⟩] := by
  have whole : (rest ++ []).takeWhile (!closesFence ·) = rest := takeWhile_body inside (by simp)
  rw [List.append_nil] at whole
  have nothing : rest.dropWhile (!closesFence ·) = [] :=
    List.dropWhile_eq_nil_iff.mpr (by simpa using inside)
  rw [blocks_of_opening opens quiz same, whole, nothing]
  rfl

omit same in
theorem blocks_of_closed {body after : List Text} {closing : Text}
    (same : Text.lines markdown = opening :: (body ++ closing :: after))
    (inside : ∀ line ∈ body, closesFence line = false) (closes : closesFence closing = true)
    (outside : ∀ line ∈ after, opensFence line = false) :
    blocks markdown = [⟨2, bodyText body⟩] := by
  have below : (body ++ closing :: after).dropWhile (!closesFence ·) = closing :: after := by
    rw [List.dropWhile_append_of_pos (by simpa using inside),
      List.dropWhile_cons_of_neg (by simp [closes])]
  rw [blocks_of_opening opens quiz same, takeWhile_body inside (by simp [closes]), below,
    List.tail_cons, scan_outside _ outside]

end Opened

section LongFence

variable {n : Nat} (long : 3 ≤ n) {body after : List Text} (first : body.head? ≠ some [])

include long first

theorem head?_ne_of_longFence : (body ++ ticks n :: after).head? ≠ some [] := by
  cases body with
  | nil => exact fun empty => ticks_ne_nil long (Option.some.inj empty)
  | cons line rest => exact first

theorem head?_takeWhile_ne_of_longFence :
    ((body ++ ticks n :: after).takeWhile (!closesFence ·)).head? ≠ some [] := by
  rw [List.head?_takeWhile]
  exact fun empty => head?_ne_of_longFence long first (Option.filter_eq_some_iff.mp empty).1

variable {markdown : Text}
  (same : Text.lines markdown = quizOpening n :: (body ++ ticks n :: after))

include same

theorem head?_blocks_of_longFence :
    (blocks markdown).head? =
      some ⟨2, Text.join "\n" ((body ++ ticks n :: after).takeWhile (!closesFence ·))⟩ := by
  rw [blocks_of_opening (opensFence_quizOpening long) (opensQuiz_quizOpening long) same,
    bodyText_of_first (head?_takeWhile_ne_of_longFence long first)]
  rfl

theorem eq_three_of_source {line : Nat}
    (only : blocks markdown = [⟨line, Text.join "\n" body⟩]) : n = 3 := by
  have whole : ∀ line ∈ body ++ ticks n :: after, '\n' ∉ line := fun line member =>
    Text.newline_not_mem_lines (same ▸ List.mem_cons_of_mem _ member)
  have found := head?_blocks_of_longFence long first same
  rw [only] at found
  -- The block ends above the first line that closes its fence, so that is the one below the body.
  have source := (Block.mk.inj (Option.some.inj found)).2
  have ends : body = (body ++ ticks n :: after).takeWhile (!closesFence ·) :=
    Text.join_inj (fun line member => whole line (List.mem_append_left _ member))
      (fun line member => whole line ((List.takeWhile_prefix _).mem member)) first
      (head?_takeWhile_ne_of_longFence long first) source
  have inside : ∀ line ∈ body, (!closesFence line) = true := fun line member =>
    List.mem_takeWhile_imp (p := (!closesFence ·)) (ends ▸ member)
  rw [List.takeWhile_append_of_pos inside] at ends
  have nothing : (ticks n :: after).takeWhile (!closesFence ·) = [] := by simpa using ends
  by_contra other
  have stays : closesFence (ticks n) = false :=
    Bool.eq_false_iff.mpr fun closes => other (closesFence_ticks_iff.mp closes)
  simp [stays] at nothing

end LongFence

/-- A block ends at a line of exactly three backticks. So a body between lines of at least three is
the source of the block if there are exactly three of them; more open the fence only. -/
theorem blocks_of_longFence {n : Nat} (long : 3 ≤ n) {body after : List Text}
    (first : body.head? ≠ some []) (inside : ∀ line ∈ body, ∀ m, n ≤ m → Text.trim line ≠ ticks m)
    (outside : ∀ line ∈ after, opensFence line = false) {markdown : Text}
    (same : Text.lines markdown = quizOpening n :: (body ++ ticks n :: after)) :
    (blocks markdown).head? =
        some ⟨2, Text.join "\n" ((body ++ ticks n :: after).takeWhile (!closesFence ·))⟩ ∧
      ((∃ line, blocks markdown = [⟨line, Text.join "\n" body⟩]) ↔ n = 3) ∧
      (n ≠ 3 → (∀ line ∈ body, closesFence line = false) →
        blocks markdown = [⟨2, Text.join "\n" (body ++ ticks n :: after)⟩]) := by
  have opens := opensFence_quizOpening long
  have quiz := opensQuiz_quizOpening long
  refine ⟨head?_blocks_of_longFence long first same,
    ⟨fun ⟨line, only⟩ => eq_three_of_source long first same only, ?three⟩, ?longer⟩
  case three =>
    rintro rfl
    have clean : ∀ line ∈ body, closesFence line = false := fun line member =>
      beq_eq_false_iff_ne.mpr (inside line member 3 le_rfl)
    rw [← bodyText_of_first first]
    exact ⟨2, blocks_of_closed opens quiz same clean (closesFence_ticks_iff.mpr rfl) outside⟩
  case longer =>
    intro other clean
    have stays : closesFence (ticks n) = false :=
      Bool.eq_false_iff.mpr fun closes => other (closesFence_ticks_iff.mp closes)
    have below : ∀ line ∈ after, closesFence line = false := fun line member =>
      Bool.eq_false_iff.mpr fun closes => by
        simpa [outside line member] using opensFence_of_closesFence closes
    rw [← bodyText_of_first (head?_ne_of_longFence long first)]
    exact blocks_of_unclosed opens quiz same
      (List.forall_mem_append.mpr ⟨clean, List.forall_mem_cons.mpr ⟨stays, below⟩⟩)

def threeTicksBody : List Text := ["-- Question Q", "``", ""]

def threeTicks : Text := "```quiz\n-- Question Q\n``\n\n```\nafter"

theorem blocks_of_threeTicks :
    threeTicksBody.head? ≠ some [] ∧
      (∀ line ∈ threeTicksBody, ∀ m, 3 ≤ m → Text.trim line ≠ ticks m) ∧
      Text.lines threeTicks = quizOpening 3 :: (threeTicksBody ++ ticks 3 :: ["after"]) ∧
      ∃ line, blocks threeTicks = [⟨line, "-- Question Q\n``\n"⟩] := by
  have first : threeTicksBody.head? ≠ some [] := by decide
  have tidy : ∀ line ∈ threeTicksBody, (Text.trim line).length < 3 ∨
      Text.trim line ≠ ticks (Text.trim line).length := by decide
  have inside : ∀ line ∈ threeTicksBody, ∀ m, 3 ≤ m → Text.trim line ≠ ticks m :=
    fun line member => ne_ticks (tidy line member)
  have same : Text.lines threeTicks =
      quizOpening 3 :: (threeTicksBody ++ ticks 3 :: ["after"]) := by decide
  obtain ⟨-, exact, -⟩ := blocks_of_longFence le_rfl first inside (by decide) same
  exact ⟨first, inside, same, exact.mpr rfl⟩

def fourTicksBody : List Text := ["-- Question Q"]

def fourTicks : Text := "````quiz\n-- Question Q\n````\nafter"

theorem fourTicks_runs_on :
    fourTicksBody.head? ≠ some [] ∧
      (∀ line ∈ fourTicksBody, ∀ m, 4 ≤ m → Text.trim line ≠ ticks m) ∧
      (∀ line ∈ [("after" : Text)], opensFence line = false) ∧
      Text.lines fourTicks = quizOpening 4 :: (fourTicksBody ++ ticks 4 :: ["after"]) ∧
      blocks fourTicks = [⟨2, "-- Question Q\n````\nafter"⟩] ∧
      ∀ line, blocks fourTicks ≠ [⟨line, Text.join "\n" fourTicksBody⟩] := by
  have tidy : ∀ line ∈ fourTicksBody, (Text.trim line).length < 4 ∨
      Text.trim line ≠ ticks (Text.trim line).length := by decide
  have found : blocks fourTicks = [⟨2, "-- Question Q\n````\nafter"⟩] := by decide
  refine ⟨by decide, fun line member => ne_ticks (tidy line member), by decide, by decide, found,
    fun line only => ?_⟩
  rw [found] at only
  exact absurd (Block.mk.inj (List.cons.inj only).1).2 (by decide)

end PlainQuiz.Markdown
