import Mathlib.Data.List.Induction
import Mathlib.Data.List.Nodup
import Mathlib.Data.List.Perm.Subperm
import PlainQuiz.Terminal.Chips

set_option autoImplicit false

namespace PlainQuiz

namespace Filling

@[simp] theorem taken_concat_chip (fillings : List Filling) (index : Nat) :
    taken (fillings ++ [.chip index]) = taken fillings ++ [index] := by
  simp [taken, chip?]

@[simp] theorem taken_concat_typed (fillings : List Filling) (text : Text) :
    taken (fillings ++ [.typed text]) = taken fillings := by
  simp [taken, chip?]

end Filling

namespace Chips

theorem reads_eq_true_iff {chips : List Text} {word : Text} {index : Nat} :
    reads chips word index = true ↔ ∃ chip, chips[index]? = some chip ∧ Text.lower chip = word := by
  unfold reads
  cases chips[index]? <;> simp

theorem text_of_reads {chips : List Text} {word : Text} {index : Nat}
    (read : reads chips word index = true) :
    Filling.text chips (.chip index) ∈ chips ∧
      Text.lower (Filling.text chips (.chip index)) = word := by
  obtain ⟨chip, here, same⟩ := reads_eq_true_iff.mp read
  have text : Filling.text chips (.chip index) = chip := by simp [Filling.text, here]
  exact text ▸ ⟨List.mem_of_getElem? here, same⟩

theorem exists_reads_iff {chips : List Text} {word : Text} :
    (∃ index, reads chips word index = true) ↔ ∃ chip ∈ chips, Text.lower chip = word := by
  simp only [reads_eq_true_iff, List.mem_iff_getElem?]
  exact ⟨fun ⟨index, chip, here, same⟩ => ⟨chip, ⟨index, here⟩, same⟩,
    fun ⟨chip, ⟨index, here⟩, same⟩ => ⟨index, chip, here, same⟩⟩

theorem lt_of_reads {chips : List Text} {word : Text} {index : Nat}
    (read : reads chips word index = true) : index < chips.length := by
  obtain ⟨chip, here, _⟩ := reads_eq_true_iff.mp read
  exact (List.getElem?_eq_some_iff.mp here).1

theorem reads_unique {chips : List Text} {word other : Text} {index : Nat}
    (read : reads chips word index = true) (also : reads chips other index = true) :
    word = other := by
  obtain ⟨chip, here, rfl⟩ := reads_eq_true_iff.mp read
  obtain ⟨chip', here', rfl⟩ := reads_eq_true_iff.mp also
  rw [Option.some.inj (here.symm.trans here')]

theorem countP_reads (chips : List Text) (word : Text) :
    (List.range chips.length).countP (reads chips word) =
      chips.countP (Text.lower · == word) := by
  induction chips using List.reverseRecOn with
  | nil => rfl
  | append_singleton chips chip ih =>
    have earlier : (List.range chips.length).countP (reads (chips ++ [chip]) word) =
        (List.range chips.length).countP (reads chips word) := by
      apply List.countP_congr
      intro index member
      rw [reads, reads, List.getElem?_append_left (List.mem_range.mp member)]
    have last : reads (chips ++ [chip]) word chips.length = (Text.lower chip == word) := by
      simp [reads]
    rw [List.length_append, List.length_singleton, List.range_succ, List.countP_append,
      List.countP_append, earlier, ih, List.countP_singleton, List.countP_singleton, last]

theorem exists_free {chips : List Text} {taken : List Nat} {word : Text}
    (fewer : taken.countP (reads chips word) < chips.countP (Text.lower · == word)) :
    ∃ index, index ∉ taken ∧ reads chips word index = true := by
  by_contra none
  have all : (List.range chips.length).filter (reads chips word) ⊆
      taken.filter (reads chips word) := by
    intro index member
    have read := (List.mem_filter.mp member).2
    by_cases free : index ∈ taken
    · exact List.mem_filter.mpr ⟨free, read⟩
    · exact absurd ⟨index, free, read⟩ none
  have bound := (List.subperm_of_subset (List.nodup_range.filter _) all).length_le
  rw [← List.countP_eq_length_filter, ← List.countP_eq_length_filter, countP_reads] at bound
  omega

theorem countP_reads_le {chips : List Text} {taken : List Nat} (nodup : taken.Nodup)
    (word : Text) : taken.countP (reads chips word) ≤ chips.countP (Text.lower · == word) := by
  have inside : taken.filter (reads chips word) ⊆
      (List.range chips.length).filter (reads chips word) := by
    intro index member
    have read := (List.mem_filter.mp member).2
    exact List.mem_filter.mpr ⟨List.mem_range.mpr (lt_of_reads read), read⟩
  have bound := (List.subperm_of_subset (nodup.filter _) inside).length_le
  rwa [← List.countP_eq_length_filter, ← List.countP_eq_length_filter, countP_reads] at bound

theorem countP_lt_of_free {chips : List Text} {taken : List Nat} {word : Text} {index : Nat}
    (nodup : taken.Nodup) (free : index ∉ taken) (read : reads chips word index = true) :
    taken.countP (reads chips word) < chips.countP (Text.lower · == word) := by
  have bound : (index :: taken).countP (reads chips word) ≤ _ :=
    countP_reads_le (nodup.cons free) word
  rw [List.countP_cons, if_pos read] at bound
  omega

theorem find_of_free {chips : List Text} {taken : List Nat} {input : Text}
    (free : ∃ index, index ∉ taken ∧ reads chips (Text.lower input) index = true) :
    ∃ index, find chips taken input = some index ∧ index ∉ taken ∧
      reads chips (Text.lower input) index = true := by
  have found : ((List.range chips.length).find? fun index =>
      !taken.contains index && reads chips (Text.lower input) index).isSome = true := by
    obtain ⟨index, free, read⟩ := free
    rw [List.find?_isSome]
    exact ⟨index, List.mem_range.mpr (lt_of_reads read), by simp [free, read]⟩
  obtain ⟨index, here⟩ := Option.isSome_iff_exists.mp found
  refine ⟨index, ?_, by simpa using List.find?_some here⟩
  rw [find, here]
  rfl

theorem find_of_taken {chips : List Text} {taken : List Nat} {input : Text}
    (read : ∃ index, reads chips (Text.lower input) index = true)
    (all : ∀ index, reads chips (Text.lower input) index = true → index ∈ taken) :
    ∃ index, find chips taken input = some index ∧ index ∈ taken := by
  have noneFree : (List.range chips.length).find? (fun index =>
      !taken.contains index && reads chips (Text.lower input) index) = none := by
    rw [List.find?_eq_none]
    intro index _ found
    rw [Bool.and_eq_true] at found
    simp [all index found.2] at found
  have some : ((List.range chips.length).find? (reads chips (Text.lower input))).isSome = true := by
    obtain ⟨index, here⟩ := read
    rw [List.find?_isSome]
    exact ⟨index, List.mem_range.mpr (lt_of_reads here), here⟩
  obtain ⟨index, here⟩ := Option.isSome_iff_exists.mp some
  refine ⟨index, ?_, all index (List.find?_some here)⟩
  rw [find, noneFree, here]
  rfl

theorem find_cases {chips : List Text} {taken : List Nat} {input : Text} {index : Nat}
    (found : find chips taken input = some index) :
    reads chips (Text.lower input) index = true ∨
      label index = Text.lower input ∧ ∀ place, reads chips (Text.lower input) place = false := by
  simp only [find, Option.or_eq_some_iff] at found
  rcases found with free | ⟨_, any | ⟨unread, labelled⟩⟩
  · have both := List.find?_some free
    simp only [Bool.and_eq_true] at both
    exact .inl both.2
  · exact .inl (List.find?_some any)
  · refine .inr ⟨by simpa using List.find?_some labelled, fun place => ?_⟩
    by_contra read
    rw [Bool.not_eq_false] at read
    exact List.find?_eq_none.mp unread place (List.mem_range.mpr (lt_of_reads read)) read

theorem find_of_unread {chips : List Text} {taken : List Nat} {input : Text}
    (unread : ∀ index, reads chips (Text.lower input) index = false)
    (unlabelled : ∀ index < chips.length, label index ≠ Text.lower input) :
    find chips taken input = none := by
  simpa [find, unread, List.find?_eq_none] using unlabelled

theorem unread_of_find {chips : List Text} {taken : List Nat} {input : Text}
    (unknown : find chips taken input = none) :
    ∀ chip ∈ chips, Text.lower chip ≠ Text.lower input := by
  intro chip among same
  obtain ⟨index, read⟩ := exists_reads_iff.mpr ⟨chip, among, same⟩
  simp only [find, Option.or_eq_none_iff] at unknown
  exact List.find?_eq_none.mp unknown.2.1 index (List.mem_range.mpr (lt_of_reads read)) read

structure Serves (chips answers : List Text) (taken : List Nat) : Prop where
  nodup : taken.Nodup
  reads : List.Forall₂ (fun index answer => reads chips (Text.lower answer) index = true)
    taken answers

namespace Serves

variable {chips answers : List Text} {taken : List Nat} (serves : Serves chips answers taken)

include serves

theorem countP_taken (word : Text) :
    taken.countP (Chips.reads chips word) = answers.countP (Text.lower · == word) := by
  have each := serves.reads
  clear serves
  induction each with
  | nil => rfl
  | @cons index answer taken answers read _ ih =>
    have same : Chips.reads chips word index = (Text.lower answer == word) := by
      rw [Bool.eq_iff_iff, beq_iff_eq]
      constructor
      · exact fun also => reads_unique read also
      · rintro rfl
        exact read
    rw [List.countP_cons, List.countP_cons, ih, same]

theorem find_next {next input : Text} {later : List Text}
    (perm : chips.Perm (answers ++ next :: later)) (same : Text.lower input = Text.lower next) :
    ∃ index, find chips taken input = some index ∧ index ∉ taken ∧
      Serves chips (answers ++ [next]) (taken ++ [index]) := by
  have fewer : taken.countP (Chips.reads chips (Text.lower input)) <
      chips.countP (Text.lower · == Text.lower input) := by
    rw [serves.countP_taken, perm.countP_eq, List.countP_append, List.countP_cons, same]
    simp only [beq_self_eq_true, if_true]
    omega
  obtain ⟨index, found, free, read⟩ := find_of_free (exists_free fewer)
  refine ⟨index, found, free, ?_, ?_⟩
  · rw [← List.concat_eq_append]
    exact List.Nodup.concat free serves.nodup
  · refine List.rel_append serves.reads (.cons ?_ .nil)
    rwa [← same]

end Serves

end Chips

end PlainQuiz
