import PlainQuiz.Proofs.Block.Finish
import PlainQuiz.Proofs.Terminal.Chips
import PlainQuiz.Proofs.Terminal.Presentation

set_option autoImplicit false

namespace PlainQuiz

inductive Ending.Agrees {α β : Type} (same : α → β → Prop) : Ending α → Ending β → Prop
  | done {result : α} {other : β} (alike : same result other) :
      Agrees same (.done result) (.done other)
  | exhausted : Agrees same .exhausted .exhausted
  | unreadable : Agrees same .unreadable .unreadable

theorem Ending.Agrees.eq {α : Type} {ending other : Ending α} (agrees : Agrees Eq ending other) :
    ending = other := by
  cases agrees with
  | done same => rw [same]
  | exhausted => rfl
  | unreadable => rfl

structure Turn.Agrees {α β : Type} (same : α → β → Prop) (turn : Turn α) (other : Turn β) :
    Prop where
  ending : Ending.Agrees same turn.ending other.ending
  rest : turn.rest = other.rest

theorem Turn.Agrees.after {α β : Type} {same : α → β → Prop} {turn : Turn α} {other : Turn β}
    (agrees : Agrees same turn other) (said saidOther : Transcript) :
    Agrees same (turn.after said) (other.after saidOther) :=
  ⟨agrees.ending, agrees.rest⟩

theorem Turn.Agrees.map {α β γ δ : Type} {same : α → β → Prop} {kept : γ → δ → Prop}
    {turn : Turn α} {other : Turn β} {f : α → γ} {g : β → δ} (agrees : Agrees same turn other)
    (keeps : ∀ x y, same x y → kept (f x) (g y)) : Agrees kept (turn.map f) (other.map g) := by
  obtain ⟨said, ending, rest⟩ := turn
  obtain ⟨saidOther, endingOther, restOther⟩ := other
  obtain ⟨ended, left⟩ := agrees
  refine ⟨?_, left⟩
  cases ended with
  | done alike => exact .done (keeps _ _ alike)
  | exhausted => exact .exhausted
  | unreadable => exact .unreadable

namespace Chips

def Unlabelled (chips : List Text) (input : Input) : Prop :=
  ∀ line, some line ∈ input → ∀ index < chips.length,
    label index = Text.lower (Text.trim line) →
      ∃ chip ∈ chips, Text.lower chip = Text.lower (Text.trim line)

instance (chips : List Text) (input : Input) : Decidable (Unlabelled chips input) :=
  decidable_of_iff
    (∀ entry ∈ input, ∀ line ∈ entry, ∀ index < chips.length,
      label index = Text.lower (Text.trim line) →
        ∃ chip ∈ chips, Text.lower chip = Text.lower (Text.trim line))
    ⟨fun each line member => each (some line) member line rfl,
      fun each _ member line here => each line (Option.mem_def.mp here ▸ member)⟩

theorem Unlabelled.perm {chips others : List Text} {input : Input} (perm : chips.Perm others)
    (unlabelled : Unlabelled chips input) : Unlabelled others input := by
  intro line member index within named
  obtain ⟨chip, inside, same⟩ := unlabelled line member index (perm.length_eq ▸ within) named
  exact ⟨chip, perm.mem_iff.mp inside, same⟩

theorem Unlabelled.suffix {chips : List Text} {input rest : Input} (suffix : rest <:+ input)
    (unlabelled : Unlabelled chips input) : Unlabelled chips rest :=
  fun line member => unlabelled line (suffix.subset member)

theorem find_of_fewer {chips : List Text} {taken : List Nat} {input : Text}
    (fewer : taken.countP (reads chips (Text.lower input)) <
      chips.countP (Text.lower · == Text.lower input)) :
    ∃ index, find chips taken input = some index ∧ index ∉ taken ∧
      reads chips (Text.lower input) index = true :=
  find_of_free (exists_free fewer)

theorem find_of_all {chips : List Text} {taken : List Nat} {input : Text} (nodup : taken.Nodup)
    (all : ¬ taken.countP (reads chips (Text.lower input)) <
      chips.countP (Text.lower · == Text.lower input))
    (offered : 0 < chips.countP (Text.lower · == Text.lower input)) :
    ∃ index, find chips taken input = some index ∧ index ∈ taken := by
  apply find_of_taken
  · rw [← countP_reads, List.countP_pos_iff] at offered
    obtain ⟨index, _, read⟩ := offered
    exact ⟨index, read⟩
  · intro index read
    by_contra free
    exact all (countP_lt_of_free nodup free read)

theorem find_of_none {chips : List Text} {taken : List Nat} {line : Text} {input : Input}
    (unlabelled : Unlabelled chips input) (member : some line ∈ input)
    (absent : ¬ 0 < chips.countP (Text.lower · == Text.lower (Text.trim line))) :
    find chips taken (Text.trim line) = none := by
  rw [List.countP_pos_iff] at absent
  apply find_of_unread
  · intro index
    refine Bool.eq_false_iff.mpr fun read => ?_
    obtain ⟨chip, inside, same⟩ := exists_reads_iff.mp ⟨index, read⟩
    exact absent ⟨chip, inside, by simpa using same⟩
  · intro index within named
    obtain ⟨chip, inside, same⟩ := unlabelled line member index within named
    exact absent ⟨chip, inside, by simpa using same⟩

end Chips

open Chips in
structure Filling.Matches (chips others : List Text) (fillings fillingsOther : List Filling) :
    Prop where
  nodup : (taken fillings).Nodup
  nodupOther : (taken fillingsOther).Nodup
  taken : ∀ word, (taken fillings).countP (reads chips word) =
    (taken fillingsOther).countP (reads others word)
  alike : List.Forall₂ Question.Alike (fillings.map (text chips)) (fillingsOther.map (text others))

namespace Filling.Matches

open Chips

variable {chips others : List Text} {fillings fillingsOther : List Filling}

theorem nil (chips others : List Text) : Matches chips others [] [] :=
  ⟨List.nodup_nil, List.nodup_nil, fun _ => rfl, .nil⟩

variable (matched : Matches chips others fillings fillingsOther)

include matched

theorem length_eq : fillings.length = fillingsOther.length := by
  simpa using matched.alike.length_eq

theorem typed (text : Text) :
    Matches chips others (fillings ++ [.typed text]) (fillingsOther ++ [.typed text]) := by
  refine ⟨by simpa using matched.nodup, by simpa using matched.nodupOther,
    by simpa using matched.taken, ?_⟩
  rw [List.map_append, List.map_append]
  exact List.rel_append matched.alike (.cons ⟨rfl, Iff.rfl⟩ .nil)

theorem chip {word : Text} {index indexOther : Nat}
    (solid : ∀ chip ∈ chips, Text.trim chip = chip) (perm : chips.Perm others)
    (free : index ∉ Filling.taken fillings) (freeOther : indexOther ∉ Filling.taken fillingsOther)
    (read : reads chips word index = true) (readOther : reads others word indexOther = true) :
    Matches chips others (fillings ++ [.chip index]) (fillingsOther ++ [.chip indexOther]) := by
  refine ⟨?_, ?_, ?_, ?_⟩
  · rw [taken_concat_chip, ← List.concat_eq_append]
    exact matched.nodup.concat free
  · rw [taken_concat_chip, ← List.concat_eq_append]
    exact matched.nodupOther.concat freeOther
  -- A chip reads like one word only, so the new ones count for a word in both runs or in neither.
  · intro other
    have same : reads chips other index = reads others other indexOther := by
      rw [Bool.eq_iff_iff]
      constructor
      · exact fun also => reads_unique read also ▸ readOther
      · exact fun also => reads_unique readOther also ▸ read
    rw [taken_concat_chip, taken_concat_chip, List.countP_append, List.countP_append,
      matched.taken other, List.countP_singleton, List.countP_singleton, same]
  · obtain ⟨inside, lower⟩ := text_of_reads read
    obtain ⟨insideOther, lowerOther⟩ := text_of_reads readOther
    have alike : Question.Alike (text chips (.chip index)) (text others (.chip indexOther)) :=
      .of_lower (solid _ inside) (solid _ (perm.mem_iff.mpr insideOther))
        (lower.trans lowerOther.symm)
    rw [List.map_append, List.map_append]
    exact List.rel_append matched.alike (.cons alike .nil)

inductive Names (chips others : List Text) (fillings fillingsOther : List Filling) :
    Option Nat → Option Nat → Prop
  | free {index indexOther : Nat} (free : index ∉ Filling.taken fillings)
      (freeOther : indexOther ∉ Filling.taken fillingsOther)
      (next : Matches chips others (fillings ++ [.chip index])
        (fillingsOther ++ [.chip indexOther])) :
      Names chips others fillings fillingsOther (some index) (some indexOther)
  | taken {index indexOther : Nat} (used : index ∈ Filling.taken fillings)
      (usedOther : indexOther ∈ Filling.taken fillingsOther) :
      Names chips others fillings fillingsOther (some index) (some indexOther)
  | typed : Names chips others fillings fillingsOther none none

theorem names {line : Text} {input : Input} (solid : ∀ chip ∈ chips, Text.trim chip = chip)
    (perm : chips.Perm others) (unlabelled : Unlabelled chips input)
    (member : some line ∈ input) :
    Names chips others fillings fillingsOther
      (find chips (Filling.taken fillings) (Text.trim line))
      (find others (Filling.taken fillingsOther) (Text.trim line)) := by
  -- Both orders offer equally many chips for the words, and both runs took equally many of them.
  have offers := perm.countP_eq (Text.lower · == Text.lower (Text.trim line))
  have taken := matched.taken (Text.lower (Text.trim line))
  by_cases fewer : (Filling.taken fillings).countP (reads chips (Text.lower (Text.trim line))) <
      chips.countP (Text.lower · == Text.lower (Text.trim line))
  · obtain ⟨index, found, free, read⟩ := find_of_fewer fewer
    obtain ⟨indexOther, foundOther, freeOther, readOther⟩ :=
      find_of_fewer (taken ▸ offers ▸ fewer)
    rw [found, foundOther]
    exact .free free freeOther (matched.chip solid perm free freeOther read readOther)
  · by_cases offered : 0 < chips.countP (Text.lower · == Text.lower (Text.trim line))
    · obtain ⟨index, found, used⟩ := find_of_all matched.nodup fewer offered
      obtain ⟨indexOther, foundOther, usedOther⟩ :=
        find_of_all matched.nodupOther (taken ▸ offers ▸ fewer) (offers ▸ offered)
      rw [found, foundOther]
      exact .taken used usedOther
    · rw [find_of_none unlabelled member offered,
        find_of_none (unlabelled.perm perm) member (offers ▸ offered)]
      exact .typed

end Filling.Matches

namespace Question

open Chips

section Order

variable {question : Question} {labels : Labels} {chips others : List Text} {input : Input}
  (solid : ∀ chip ∈ chips, Text.trim chip = chip) (perm : chips.Perm others)
  (unlabelled : Unlabelled chips input)

include solid perm unlabelled

theorem askBlanks_agrees {fillings fillingsOther : List Filling}
    (matched : Filling.Matches chips others fillings fillingsOther) :
    Turn.Agrees (Filling.Matches chips others) (question.askBlanks chips fillings input)
      (question.askBlanks others fillingsOther input) := by
  induction input generalizing fillings fillingsOther with
  | nil =>
    by_cases filled : question.blankCount ≤ fillings.length
    · rw [askBlanks_of_filled filled, askBlanks_of_filled (matched.length_eq ▸ filled)]
      exact ⟨.done matched, rfl⟩
    · rw [askBlanks_nil filled, askBlanks_nil (matched.length_eq ▸ filled)]
      exact ⟨.exhausted, rfl⟩
  | cons line rest ih =>
    have later : Unlabelled chips rest := unlabelled.suffix (List.suffix_cons line rest)
    by_cases filled : question.blankCount ≤ fillings.length
    · rw [askBlanks_of_filled filled, askBlanks_of_filled (matched.length_eq ▸ filled)]
      exact ⟨.done matched, rfl⟩
    have filledOther : ¬ question.blankCount ≤ fillingsOther.length := matched.length_eq ▸ filled
    cases line with
    | none =>
      rw [askBlanks_unreadable filled, askBlanks_unreadable filledOther]
      exact ⟨.unreadable, rfl⟩
    | some line =>
      have named := matched.names solid perm unlabelled List.mem_cons_self
      generalize found : find chips (Filling.taken fillings) (Text.trim line) = place at named
      generalize foundOther :
        find others (Filling.taken fillingsOther) (Text.trim line) = placeOther at named
      cases named with
      | free free freeOther next =>
        rw [askBlanks_of_free filled found free,
          askBlanks_of_free filledOther foundOther freeOther]
        exact (ih later next).after _ _
      | taken used usedOther =>
        rw [askBlanks_of_taken filled found used,
          askBlanks_of_taken filledOther foundOther usedOther]
        exact (ih later matched).after _ _
      | typed =>
        rw [askBlanks_of_typed filled found, askBlanks_of_typed filledOther foundOther]
        exact (ih later (matched.typed (Text.trim line))).after _ _

theorem attempt_agrees (fill : question.kind = .fillBlank) :
    Turn.Agrees (fun response other => question.grade response = question.grade other)
      (question.attempt labels chips input) (question.attempt labels others input) := by
  have asked : Turn.Agrees (Filling.Matches chips others) (question.askBlanks chips [] input)
      (question.askBlanks others [] input) :=
    askBlanks_agrees solid perm unlabelled (.nil chips others)
  have graded : ∀ fillings fillingsOther, Filling.Matches chips others fillings fillingsOther →
      question.grade (blanksOf chips fillings) =
        question.grade (blanksOf others fillingsOther) := by
    intro fillings fillingsOther matched
    have compared := question.gradeBlanks_congr matched.alike
    simp only [grade, isCorrect, fill, blanksOf, compared]
  unfold attempt
  rw [fill]
  exact asked.map graded

theorem takeReplies_agrees (fill : question.kind = .fillBlank) :
    Turn.Agrees Eq (question.takeReplies labels chips input)
      (question.takeReplies labels others input) := by
  induction input using question.attempts_induction labels chips with
  | step input ih =>
    have agrees : Turn.Agrees (fun response other => question.grade response = question.grade other)
        (question.attempt labels chips input) (question.attempt labels others input) :=
      attempt_agrees solid perm unlabelled fill
    have suffix := (question.attempt_spends labels chips input).suffix
    rw [takeReplies_eq, takeReplies_eq question labels others]
    generalize question.attempt labels chips input = attempt at agrees suffix ih
    generalize question.attempt labels others input = attemptOther at agrees
    obtain ⟨said, ending, rest⟩ := attempt
    obtain ⟨saidOther, endingOther, restOther⟩ := attemptOther
    obtain ⟨ended, left⟩ := agrees
    obtain rfl : rest = restOther := left
    cases ended with
    | exhausted => exact ⟨.exhausted, rfl⟩
    | unreadable => exact ⟨.unreadable, rfl⟩
    | @done response other same =>
      dsimp only
      rw [same]
      cases (labels.verdict question (question.grade other)).1 with
      | some outcome => exact ⟨.done rfl, rfl⟩
      | none => exact (ih response rfl (unlabelled.suffix suffix)).after _ _

end Order

/-- Over two orders of the chips of a parsed question the same lines have the same outcome, or end
the same way without one, and the same lines are left. -/
theorem present_agrees {source : Text} {question : Question}
    (parsed : Question.ofBlock source = .ok question) (fill : question.kind = .fillBlank)
    {chips others : List Text} (perm : chips.Perm question.answers)
    (permOther : others.Perm question.answers) {input : Input}
    (unlabelled : Unlabelled chips input) (labels : Labels) (number total : Nat) :
    (question.present labels number total chips input).ending =
        (question.present labels number total others input).ending ∧
      (question.present labels number total chips input).rest =
        (question.present labels number total others input).rest := by
  have solid : ∀ chip ∈ chips, Text.trim chip = chip :=
    fun chip member => trim_of_mem_answers parsed (perm.mem_iff.mp member)
  have agrees : Turn.Agrees Eq (question.takeReplies labels chips input)
      (question.takeReplies labels others input) :=
    takeReplies_agrees solid (perm.trans permOther.symm) unlabelled fill
  exact ⟨agrees.ending.eq, agrees.rest⟩

-- Two answers differ in letter case only, and two read like the label of a chip.
def caseTwins : Question :=
  ⟨.fillBlank, "[blank] [blank] [blank]", [], [("b" : Text), "B", "a"], "b, B, a"⟩

-- The third line finds both of its chips taken, and the fourth leaves the attempt incomplete.
def twinLines : Input := ([" B", "b", "b", "", "a", "b", "x"] : List String).map (some ↑·)

theorem present_agrees_caseTwins :
    Unlabelled [("a" : Text), "B", "b"] twinLines ∧
      (caseTwins.present .standard 1 1 [("a" : Text), "B", "b"] twinLines).ending =
        (caseTwins.present .standard 1 1 [("b" : Text), "a", "B"] twinLines).ending ∧
      (caseTwins.present .standard 1 1 [("a" : Text), "B", "b"] twinLines).rest =
        (caseTwins.present .standard 1 1 [("b" : Text), "a", "B"] twinLines).rest := by
  have parsed : Question.ofBlock
      "-- Type fb\n-- Question\n[blank] [blank] [blank]\n-- Answer b, B, a" = .ok caseTwins := by
    decide
  have unlabelled : Unlabelled [("a" : Text), "B", "b"] twinLines := by decide
  exact ⟨unlabelled,
    present_agrees parsed rfl (by decide) (by decide) unlabelled .standard 1 1⟩

end Question

end PlainQuiz
