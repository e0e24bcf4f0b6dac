import PlainQuiz.Proofs.Terminal.Blanks

set_option autoImplicit false

namespace PlainQuiz

namespace Chips

def labelLetter (index : Nat) : Char := Char.ofNat ('a'.toNat + index % 26)

theorem label_eq (index : Nat) :
    label index = List.replicate (index / 26 + 1) (labelLetter index) := rfl

theorem of_labelLetter (holds : Char → Prop)
    (each : ∀ offset < 26, holds (Char.ofNat ('a'.toNat + offset))) (index : Nat) :
    holds (labelLetter index) :=
  each (index % 26) (Nat.mod_lt index (by decide))

theorem toNat_labelLetter (index : Nat) : (labelLetter index).toNat = 'a'.toNat + index % 26 := by
  have each : ∀ offset < 26, (Char.ofNat ('a'.toNat + offset)).toNat = 'a'.toNat + offset := by
    decide
  exact each (index % 26) (Nat.mod_lt index (by decide))

-- The length of a label gives the quotient of its index by 26, its letter the remainder.
theorem label_injective : Function.Injective label := by
  intro index other same
  rw [label_eq, label_eq, List.replicate_inj] at same
  obtain ⟨length, none | letter⟩ := same
  · omega
  · have code := congrArg Char.toNat letter
    rw [toNat_labelLetter, toNat_labelLetter] at code
    omega

theorem mem_label {index : Nat} {c : Char} (member : c ∈ label index) : c = labelLetter index :=
  List.eq_of_mem_replicate member

theorem trim_label (index : Nat) : Text.trim (label index) = label index := by
  have solid : Text.isBlank (labelLetter index) = false :=
    of_labelLetter (fun c => Text.isBlank c = false) (by decide) index
  apply Text.trim_eq_self
  · intro c first
    exact mem_label (List.mem_of_mem_head? first) ▸ solid
  · intro c last
    exact mem_label (List.mem_of_mem_getLast? last) ▸ solid

theorem lower_label (index : Nat) : Text.lower (label index) = label index := by
  have ascii : Text.isAscii (labelLetter index) = true :=
    of_labelLetter (fun c => Text.isAscii c = true) (by decide) index
  have small : (labelLetter index).toLower = labelLetter index :=
    of_labelLetter (fun c => c.toLower = c) (by decide) index
  rw [Text.lower, Text.lowerFrom_of_isAscii fun c member => mem_label member ▸ ascii, label_eq,
    List.map_replicate, small]

theorem lower_trim_of_label {line : Text} {index : Nat}
    (spells : Terminal.Spells line (label index)) : Text.lower (Text.trim line) = label index := by
  rw [spells.lower_trim, trim_label, lower_label]

def AvoidLabels (chips : List Text) : Prop :=
  ∀ chip ∈ chips, ∀ index < chips.length, Text.sameIgnoringCase chip (label index) = false

instance (chips : List Text) : Decidable (AvoidLabels chips) :=
  inferInstanceAs (Decidable (∀ chip ∈ chips, ∀ index < chips.length, _))

theorem AvoidLabels.unread {chips : List Text} {index : Nat} (avoid : AvoidLabels chips)
    (within : index < chips.length) : reads chips (label index) = fun _ => false := by
  funext place
  refine Bool.eq_false_iff.mpr fun read => ?_
  obtain ⟨chip, among, same⟩ := exists_reads_iff.mp ⟨place, read⟩
  have differ := avoid chip among index within
  simp [Text.sameIgnoringCase, lower_label, same] at differ

theorem AvoidLabels.find_label {chips : List Text} {index : Nat} {input : Text}
    (avoid : AvoidLabels chips) (within : index < chips.length)
    (named : Text.lower input = label index) (taken : List Nat) :
    find chips taken input = some index := by
  have labelled : (List.range chips.length).find? (fun place => label place == label index) =
      some index := by
    rw [List.find?_range_eq_some]
    refine ⟨beq_self_eq_true _, List.mem_range.mpr within, fun place before => ?_⟩
    simpa using fun same => before.ne (label_injective same)
  have unread : (List.range chips.length).find? (fun _ => false) = none := by simp
  simp only [find, named, avoid.unread within, Bool.and_false, unread, labelled, Option.none_or]

theorem exists_unknown (chips : List Text) :
    ∃ line, ∀ taken, find chips taken (Text.trim line) = none := by
  -- It is longer than every chip and made of no letters, as labels are.
  let line : Text := List.replicate ((chips.map Text.lower).flatten.length + 1) '!'
  have marks : ∀ c ∈ line, c = '!' := fun _ => List.eq_of_mem_replicate
  have lowered : Text.lower line = line := by
    have ascii : ∀ c ∈ line, Text.isAscii c = true := fun c member => marks c member ▸ rfl
    rw [Text.lower, Text.lowerFrom_of_isAscii ascii]
    exact List.map_replicate
  have trimmed : Text.trim line = line :=
    Text.trim_eq_self (fun c first => marks c (List.mem_of_mem_head? first) ▸ rfl)
      fun c last => marks c (List.mem_of_mem_getLast? last) ▸ rfl
  refine ⟨line, fun taken => ?_⟩
  rw [trimmed]
  refine find_of_unread (fun index => Bool.eq_false_iff.mpr fun read => ?_) fun index _ same => ?_
  · obtain ⟨chip, among, same⟩ := exists_reads_iff.mp ⟨index, read⟩
    have member : Text.lower chip ∈ chips.map Text.lower := List.mem_map_of_mem among
    have shorter := (List.sublist_flatten_of_mem member).length_le
    rw [same, lowered, List.length_replicate] at shorter
    omega
  · rw [lowered] at same
    have letter : labelLetter index ∈ line := same ▸ List.mem_replicate.mpr ⟨by simp, rfl⟩
    exact of_labelLetter (· ≠ '!') (by decide) index (marks _ letter)

end Chips

namespace Filling

open Terminal Chips

variable {chips : List Text} (avoid : AvoidLabels chips)

include avoid

theorem adds_of_label {fillings : List Filling} {line : Text} {index : Nat}
    (spells : Spells line (label index)) (within : index < chips.length)
    (free : index ∉ taken fillings) : Adds chips fillings line (.chip index) :=
  .chip (avoid.find_label within (lower_trim_of_label spells) _) free

theorem accepted_of_labels (used : List Nat) {lines : List Text} {indices : List Nat}
    (spelled : List.Forall₂ Spells lines (indices.map label)) (nodup : (used ++ indices).Nodup)
    (within : ∀ index ∈ indices, index < chips.length) :
    Accepted chips (used.map .chip) lines ((used ++ indices).map .chip) := by
  -- Each label that is read adds its chip to those that are used.
  induction indices generalizing used lines with
  | nil =>
    obtain rfl := List.forall₂_nil_right_iff.mp spelled
    simpa using Accepted.nil _
  | cons index indices ih =>
    rw [List.map_cons, List.forall₂_cons_right_iff] at spelled
    obtain ⟨line, lines, spells, later, rfl⟩ := spelled
    have free : index ∉ taken (used.map .chip) := by
      rw [taken_chips]
      exact fun member => (List.nodup_append.mp nodup).2.2 index member index (by simp) rfl
    have accepted : Accepted chips ((used ++ [index]).map .chip) lines
        ((used ++ [index] ++ indices).map .chip) :=
      ih (used ++ [index]) later (by simpa using nodup) fun other member =>
        within other (List.mem_cons_of_mem index member)
    refine .cons (adds_of_label avoid spells (within index (by simp)) free) ?_
    simpa using accepted

end Filling

namespace Question

open Terminal Chips Filling

variable {question : Question} {chips : List Text}

theorem askBlanks_of_label_again (avoid : AvoidLabels chips) {fillings : List Filling}
    {line : Text} {index : Nat} (unfilled : fillings.length < question.blankCount)
    (used : .chip index ∈ fillings) (within : index < chips.length)
    (spells : Spells line (label index)) (rest : Input) :
    question.askBlanks chips fillings (some line :: rest) =
      (question.askBlanks chips fillings rest).after
        [.request (blankHint (fillings.length + 1)), .line (takenMessage index)] := by
  have found := avoid.find_label within (lower_trim_of_label spells) (taken fillings)
  have taken : index ∈ taken fillings := List.mem_filterMap.mpr ⟨_, used, rfl⟩
  exact askBlanks_of_taken (Nat.not_le.mpr unfilled) found taken rest

theorem text_chips {indices : List Nat} {texts : List Text}
    (chosen : indices.map (chips[·]?) = texts.map some) :
    (indices.map Filling.chip).map (Filling.text chips) = texts := by
  have each := congrArg (List.map (·.getD [])) chosen
  rw [List.map_map, List.map_map] at each
  rw [List.map_map]
  simpa [Function.comp_def, Filling.text] using each

theorem lt_of_chosen {indices : List Nat} {texts : List Text}
    (chosen : indices.map (chips[·]?) = texts.map some) {index : Nat} (member : index ∈ indices) :
    index < chips.length := by
  have offered : chips[index]? ∈ texts.map some := chosen ▸ List.mem_map_of_mem member
  obtain ⟨text, -, here⟩ := List.mem_map.mp offered
  exact (List.getElem?_eq_some_iff.mp here.symm).1

/-- Different chips have different labels, and where no chip reads like one of them, labels choose
chips: those of different chips, one for each blank, hand in the texts of these chips without a
refusal, and the label of a chip that is used is refused at any point without effect on the rest. -/
theorem labels_choose_chips (fill : question.kind = .fillBlank) (avoid : AvoidLabels chips) :
    Function.Injective label ∧
    (∀ (indices : List Nat) (texts lines : List Text), indices.length = question.blankCount →
      indices.Nodup → indices.map (chips[·]?) = texts.map some →
      List.Forall₂ Spells lines (indices.map label) → ∀ (labels : Labels) (rest : Input),
        question.attempt labels chips (lines.map some ++ rest) =
          ⟨blankRequests 1 question.blankCount, .done (.blanks texts), rest⟩) ∧
    ∀ (fillings : List Filling) (line : Text) (index : Nat),
      fillings.length < question.blankCount → .chip index ∈ fillings → index < chips.length →
      Spells line (label index) → ∀ rest : Input,
        question.askBlanks chips fillings (some line :: rest) =
          (question.askBlanks chips fillings rest).after
            [.request (blankHint (fillings.length + 1)), .line (takenMessage index)] := by
  refine ⟨label_injective, ?_, fun _ _ _ unfilled used within spells =>
    askBlanks_of_label_again avoid unfilled used within spells⟩
  intro indices texts lines count nodup chosen spelled labels rest
  have accepted : Accepted chips [] lines (indices.map .chip) :=
    accepted_of_labels avoid [] spelled nodup fun _ => lt_of_chosen chosen
  have lengths : lines.length = question.blankCount := by
    rw [spelled.length_eq, List.length_map, count]
  have run : question.askBlanks chips [] (lines.map some ++ rest) = _ :=
    askBlanks_of_accepted accepted (by simpa using lengths) rest
  simp only [attempt, fill]
  rw [run, lengths]
  simp [Turn.map, Ending.map, blanksOf, text_chips chosen]

-- More chips than letters, so the last two labels are doubled letters.
def numberChips : List Text := (List.range 28).map Text.ofNat

def pairQuestion : Question := ⟨.fillBlank, "[blank], [blank]", [], numberChips, "0, 1"⟩

theorem labels_choose_numberChips :
    AvoidLabels numberChips ∧
      pairQuestion.attempt .standard numberChips [some " bB\t", some "B"] =
        ⟨blankRequests 1 2, .done (.blanks [("27" : Text), "1"]), []⟩ ∧
      pairQuestion.askBlanks numberChips [.chip 27] [some "BB", some "B"] =
        (pairQuestion.askBlanks numberChips [.chip 27] [some "B"]).after
          [.request (blankHint 2), .line (takenMessage 27)] := by
  have avoid : AvoidLabels numberChips := by decide +kernel
  have spells : Spells " bB\t" (label 27) :=
    ⟨" ", "bB", "\t", rfl, List.all_eq_true.mp rfl, List.all_eq_true.mp rfl, rfl⟩
  have again : Spells "BB" (label 27) := ⟨[], "BB", [], rfl, by simp, by simp, rfl⟩
  have single : Spells "B" (label 1) := ⟨[], "B", [], rfl, by simp, by simp, rfl⟩
  obtain ⟨-, choose, refuse⟩ :=
    labels_choose_chips (show pairQuestion.kind = .fillBlank from rfl) avoid
  have chosen := choose [27, 1] [("27" : Text), "1"] [" bB\t", "B"] rfl (by decide) (by decide)
    (.cons spells (.cons single .nil)) .standard []
  exact ⟨avoid, chosen,
    refuse [.chip 27] "BB" 27 (by decide) (by decide) (by decide) again [some "B"]⟩

end Question

end PlainQuiz
