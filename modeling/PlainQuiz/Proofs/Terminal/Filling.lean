import PlainQuiz.Proofs.Terminal.Chips
import PlainQuiz.Proofs.Terminal.Presentation

set_option autoImplicit false

namespace PlainQuiz

def Terminal.blankRequests (first count : Nat) : Transcript :=
  (List.range' first count).map fun number => .request (Question.blankHint number)

theorem Terminal.blankRequests_succ (first count : Nat) :
    blankRequests first (count + 1) =
      .request (Question.blankHint first) :: blankRequests (first + 1) count := by
  simp [blankRequests, List.range'_succ]

theorem Terminal.line_not_mem_blankRequests (text : Text) (first count : Nat) :
    .line text ∉ blankRequests first count := by
  simp [blankRequests]

namespace Filling

inductive Adds (chips : List Text) (fillings : List Filling) (line : Text) : Filling → Prop
  | chip {index : Nat}
      (found : Chips.find chips (taken fillings) (Text.trim line) = some index)
      (free : index ∉ taken fillings) : Adds chips fillings line (.chip index)
  | typed (unknown : Chips.find chips (taken fillings) (Text.trim line) = none) :
      Adds chips fillings line (.typed (Text.trim line))

inductive Accepted (chips : List Text) : List Filling → List Text → List Filling → Prop
  | nil (fillings : List Filling) : Accepted chips fillings [] fillings
  | cons {fillings filled : List Filling} {line : Text} {lines : List Text} {filling : Filling}
      (adds : Adds chips fillings line filling)
      (later : Accepted chips (fillings ++ [filling]) lines filled) :
      Accepted chips fillings (line :: lines) filled

theorem Accepted.invariant {chips : List Text} {holds : List Filling → Prop}
    (step : ∀ fillings line filling, holds fillings → Adds chips fillings line filling →
      holds (fillings ++ [filling]))
    {fillings filled : List Filling} {lines : List Text}
    (accepted : Accepted chips fillings lines filled) (start : holds fillings) : holds filled := by
  induction accepted with
  | nil => exact start
  | cons adds _ ih => exact ih (step _ _ _ start adds)

theorem Accepted.length_eq {chips : List Text} {fillings filled : List Filling}
    {lines : List Text} (accepted : Accepted chips fillings lines filled) :
    filled.length = fillings.length + lines.length := by
  induction accepted with
  | nil => rfl
  | cons _ _ ih =>
    rw [ih, List.length_append, List.length_singleton, List.length_cons]
    omega

theorem exists_accepted_of_unknown {chips : List Text} {line : Text}
    (unknown : ∀ taken, Chips.find chips taken (Text.trim line) = none) (fillings : List Filling)
    (count : Nat) : ∃ filled, Accepted chips fillings (List.replicate count line) filled := by
  induction count generalizing fillings with
  | zero => exact ⟨fillings, .nil fillings⟩
  | succ count ih =>
    obtain ⟨filled, later⟩ := ih (fillings ++ [.typed (Text.trim line)])
    exact ⟨filled, .cons (.typed (unknown _)) later⟩

structure Placed (chips : List Text) (fillings : List Filling) : Prop where
  nodup : (taken fillings).Nodup
  offered : ∀ index ∈ taken fillings, index < chips.length
  typed : ∀ text, .typed text ∈ fillings → ∀ chip ∈ chips, Text.lower chip ≠ Text.lower text

namespace Placed

variable {chips : List Text} {fillings filled : List Filling}

theorem nil (chips : List Text) : Placed chips [] :=
  ⟨List.nodup_nil, by simp [taken], by simp⟩

theorem adds {line : Text} {filling : Filling} (placed : Placed chips fillings)
    (adds : Adds chips fillings line filling) : Placed chips (fillings ++ [filling]) := by
  cases adds with
  | @chip index found free =>
    refine ⟨?_, ?_, by simpa using placed.typed⟩
    · rw [taken_concat_chip, ← List.concat_eq_append]
      exact placed.nodup.concat free
    · intro place member
      rw [taken_concat_chip, List.mem_append, List.mem_singleton] at member
      rcases member with earlier | rfl
      · exact placed.offered place earlier
      · exact Chips.find_lt found
  | typed unknown =>
    refine ⟨by simpa using placed.nodup, by simpa using placed.offered, ?_⟩
    intro text member chip among
    rcases List.mem_append.mp member with earlier | here
    · exact placed.typed text earlier chip among
    · obtain rfl : text = Text.trim line := by simpa using here
      exact Chips.unread_of_find unknown chip among

theorem of_accepted {lines : List Text} (accepted : Accepted chips [] lines filled) :
    Placed chips filled :=
  accepted.invariant (fun _ _ _ placed added => placed.adds added) (nil chips)

variable (placed : Placed chips fillings)

include placed

theorem chip_unique {first second index : Nat} (here : fillings[first]? = some (.chip index))
    (there : fillings[second]? = some (.chip index)) : first = second := by
  have apart := List.pairwise_iff_getElem.mp (List.pairwise_filterMap.mp placed.nodup)
  obtain ⟨within, here⟩ := List.getElem?_eq_some_iff.mp here
  obtain ⟨also, there⟩ := List.getElem?_eq_some_iff.mp there
  rcases Nat.lt_trichotomy first second with before | same | after
  · exact absurd rfl (apart first second within also before index (by rw [here]; rfl) index
      (by rw [there]; rfl))
  · exact same
  · exact absurd rfl (apart second first also within after index (by rw [there]; rfl) index
      (by rw [here]; rfl))

theorem reads_eq_text {index : Nat} (member : index ∈ taken fillings) (word : Text) :
    Chips.reads chips word index = (Text.lower (text chips (.chip index)) == word) := by
  have here := List.getElem?_eq_getElem (placed.offered index member)
  simp [Chips.reads, text, here]

theorem countP_text_le {word : Text} (offered : ∃ chip ∈ chips, Text.lower chip = word) :
    (fillings.map (text chips)).countP (Text.lower · == word) ≤
      chips.countP (Text.lower · == word) := by
  obtain ⟨chip, among, same⟩ := offered
  have fromChips : (fillings.map (text chips)).countP (Text.lower · == word) =
      (taken fillings).countP (Chips.reads chips word) := by
    rw [taken, List.countP_map, List.countP_filterMap]
    apply List.countP_congr
    intro filling member
    cases filling with
    | chip index =>
      have placedHere : index ∈ taken fillings := List.mem_filterMap.mpr ⟨_, member, rfl⟩
      simp [chip?, placed.reads_eq_text placedHere]
    | typed words =>
      have other : Text.lower words ≠ word := same ▸ (placed.typed words member chip among).symm
      simp [chip?, text, other]
  rw [fromChips]
  exact Chips.countP_reads_le placed.nodup word

end Placed

end Filling

namespace Question

open Filling Terminal

variable {question : Question} {chips : List Text} {fillings filled : List Filling}

theorem askBlanks_of_adds {line : Text} {filling : Filling}
    (unfilled : ¬ question.blankCount ≤ fillings.length)
    (adds : Adds chips fillings line filling) (rest : Input) :
    question.askBlanks chips fillings (some line :: rest) =
      (question.askBlanks chips (fillings ++ [filling]) rest).after
        (blankRequests (fillings.length + 1) 1) := by
  cases adds with
  | chip found free => exact askBlanks_of_free unfilled found free rest
  | typed unknown => exact askBlanks_of_typed unfilled unknown rest

theorem askBlanks_of_accepted {lines : List Text}
    (accepted : Accepted chips fillings lines filled)
    (count : fillings.length + lines.length = question.blankCount) (rest : Input) :
    question.askBlanks chips fillings (lines.map some ++ rest) =
      ⟨blankRequests (fillings.length + 1) lines.length, .done filled, rest⟩ := by
  induction accepted with
  | nil fillings =>
    rw [List.length_nil, Nat.add_zero] at count
    exact askBlanks_of_filled count.ge rest
  | @cons fillings filled line lines filling adds later ih =>
    rw [List.length_cons] at count
    have counted : (fillings ++ [filling]).length + lines.length = question.blankCount := by
      rw [List.length_append, List.length_singleton]
      omega
    rw [List.map_cons, List.cons_append, askBlanks_of_adds (by omega) adds, ih counted]
    simp [Turn.after, blankRequests, List.range'_succ]

theorem exists_accepted_of_done {input : Input} (room : fillings.length ≤ question.blankCount)
    (done : (question.askBlanks chips fillings input).ending = .done filled) :
    ∃ consumed lines, input = consumed ++ (question.askBlanks chips fillings input).rest ∧
      (lines.map some).Sublist consumed ∧
      fillings.length + lines.length = question.blankCount ∧
      Accepted chips fillings lines filled := by
  fun_induction Question.askBlanks question chips fillings input with
  | case1 fillings input full =>
    obtain rfl := Ending.done.inj done
    exact ⟨[], [], rfl, .refl [], Nat.le_antisymm room full, .nil _⟩
  | case2 | case3 => contradiction
  | case4 fillings full request line rest typed unknown ih =>
    obtain ⟨consumed, lines, whole, among, count, accepted⟩ :=
      ih (by grind) done
    exact ⟨some line :: consumed, line :: lines, congrArg (some line :: ·) whole,
      among.cons_cons _, by grind, .cons (.typed unknown) accepted⟩
  | case5 fillings full request line rest typed index found used ih =>
    obtain ⟨consumed, lines, whole, among, count, accepted⟩ := ih room done
    exact ⟨some line :: consumed, lines, congrArg (some line :: ·) whole, among.cons _, count,
      accepted⟩
  | case6 fillings full request line rest typed index found used ih =>
    obtain ⟨consumed, lines, whole, among, count, accepted⟩ :=
      ih (by grind) done
    have free : index ∉ taken fillings := by simpa using used
    exact ⟨some line :: consumed, line :: lines, congrArg (some line :: ·) whole,
      among.cons_cons _, by grind,
      .cons (.chip found free) accepted⟩

end Question

end PlainQuiz
