import Mathlib.Data.List.DropRight
import PlainQuiz.Text.Basic

set_option autoImplicit false

namespace PlainQuiz.Text

theorem trimEnd_eq_rdropWhile (text : Text) : trimEnd text = text.rdropWhile isBlank := rfl

theorem trimStart_eq_self {text : Text} (solid : ∀ c ∈ text.head?, isBlank c = false) :
    trimStart text = text := by
  cases text with
  | nil => rfl
  | cons c rest =>
    have first := solid c (by simp)
    simp [trimStart, first]

theorem trimEnd_eq_self {text : Text} (solid : ∀ c ∈ text.getLast?, isBlank c = false) :
    trimEnd text = text := by
  rw [trimEnd_eq_rdropWhile, List.rdropWhile_eq_self_iff]
  intro filled
  simp [solid _ (List.getLast?_eq_some_getLast filled)]

theorem trimStart_append_blank {before text : Text} (blank : ∀ c ∈ before, isBlank c = true) :
    trimStart (before ++ text) = trimStart text :=
  List.dropWhile_append_of_pos blank

theorem trimEnd_append_blank {text after : Text} (blank : ∀ c ∈ after, isBlank c = true) :
    trimEnd (text ++ after) = trimEnd text := by
  simp only [trimEnd, List.reverse_append]
  rw [List.dropWhile_append_of_pos (by simpa using blank)]

theorem exists_append_trimStart (text : Text) :
    ∃ before : Text, (∀ c ∈ before, isBlank c = true) ∧ text = before ++ trimStart text :=
  ⟨text.takeWhile isBlank, fun _ member => List.mem_takeWhile_imp member,
    List.takeWhile_append_dropWhile.symm⟩

theorem exists_trimEnd_append (text : Text) :
    ∃ after : Text, (∀ c ∈ after, isBlank c = true) ∧ text = trimEnd text ++ after := by
  refine ⟨(text.reverse.takeWhile isBlank).reverse,
    fun _ member => List.mem_takeWhile_imp (List.mem_reverse.mp member), ?_⟩
  rw [trimEnd, ← List.reverse_append, List.takeWhile_append_dropWhile, List.reverse_reverse]

theorem exists_blank_ends (text : Text) :
    ∃ before after : Text, (∀ c ∈ before, isBlank c = true) ∧ (∀ c ∈ after, isBlank c = true) ∧
      text = before ++ (trim text ++ after) := by
  obtain ⟨before, blankBefore, start⟩ := exists_append_trimStart text
  obtain ⟨after, blankAfter, finish⟩ := exists_trimEnd_append (trimStart text)
  exact ⟨before, after, blankBefore, blankAfter, by rw [trim, ← finish, ← start]⟩

theorem head?_trimStart {text : Text} {c : Char} (first : c ∈ (trimStart text).head?) :
    isBlank c = false := by
  have start := List.head?_dropWhile_not isBlank text
  rw [show text.dropWhile isBlank = trimStart text from rfl, Option.mem_def.mp first] at start
  simpa using start

theorem head?_trim {text : Text} {c : Char} (first : c ∈ (trim text).head?) :
    isBlank c = false := by
  obtain ⟨after, _, whole⟩ := exists_trimEnd_append (trimStart text)
  suffices c ∈ (trimStart text).head? from head?_trimStart this
  rw [whole, ← trim]
  cases shape : trim text with
  | nil => simp [shape] at first
  | cons d rest => simpa [shape] using first

theorem getLast?_trimEnd {text : Text} {c : Char} (last : c ∈ (trimEnd text).getLast?) :
    isBlank c = false := by
  have first := List.head?_dropWhile_not isBlank text.reverse
  have shape : (text.reverse.dropWhile isBlank).head? = some c := by
    simpa [trimEnd] using last
  simpa [shape] using first

theorem getLast?_trim {text : Text} {c : Char} (last : c ∈ (trim text).getLast?) :
    isBlank c = false :=
  getLast?_trimEnd last

theorem trim_eq_self {text : Text} (first : ∀ c ∈ text.head?, isBlank c = false)
    (last : ∀ c ∈ text.getLast?, isBlank c = false) : trim text = text := by
  rw [trim, trimStart_eq_self first, trimEnd_eq_self last]

@[simp] theorem trim_trim (text : Text) : trim (trim text) = trim text :=
  trim_eq_self (fun _ => head?_trim) (fun _ => getLast?_trim)

theorem trim_append_blank {before text after : Text} (blankBefore : ∀ c ∈ before, isBlank c = true)
    (blankAfter : ∀ c ∈ after, isBlank c = true) : trim (before ++ text ++ after) = trim text := by
  rw [List.append_assoc, trim, trimStart_append_blank blankBefore]
  obtain ⟨start, blankStart, whole⟩ := exists_append_trimStart text
  by_cases solid : trimStart text = []
  · have blankText : ∀ c ∈ text ++ after, isBlank c = true := by
      rw [whole, solid]
      simpa [or_imp, forall_and] using ⟨blankStart, blankAfter⟩
    have nothing : trimStart (text ++ after ++ []) = [] := trimStart_append_blank blankText
    rw [List.append_nil] at nothing
    rw [nothing, trim, solid]
  · have kept : trimStart (text ++ after) = trimStart text ++ after := by
      conv_lhs => rw [whole, List.append_assoc, trimStart_append_blank blankStart]
      apply trimStart_eq_self
      intro c first
      rw [List.head?_append_of_ne_nil _ solid] at first
      exact head?_trimStart first
    rw [kept, trimEnd_append_blank blankAfter, trim]

theorem trim_cons_blank {c : Char} (blank : isBlank c = true) (text : Text) :
    trim (c :: text) = trim text := by
  have dropped : trim ([c] ++ text ++ []) = trim text :=
    trim_append_blank (by simpa using blank) (by simp)
  simpa using dropped

theorem trim_concat_blank {c : Char} (blank : isBlank c = true) (text : Text) :
    trim (text ++ [c]) = trim text := by
  have dropped : trim ([] ++ text ++ [c]) = trim text :=
    trim_append_blank (by simp) (by simpa using blank)
  simpa using dropped

theorem trim_eq_nil_iff {text : Text} : trim text = [] ↔ ∀ c ∈ text, isBlank c = true := by
  constructor
  · intro nothing
    obtain ⟨before, after, blankBefore, blankAfter, whole⟩ := exists_blank_ends text
    rw [whole, nothing]
    simpa [or_imp, forall_and] using ⟨blankBefore, blankAfter⟩
  · intro blank
    have dropped : trim (text ++ [] ++ []) = [] := trim_append_blank blank (by simp)
    simpa using dropped

theorem mem_of_mem_trim {text : Text} {c : Char} (member : c ∈ trim text) : c ∈ text := by
  obtain ⟨before, after, _, _, whole⟩ := exists_blank_ends text
  rw [whole]
  simp [member]

theorem trim_trimEnd (text : Text) : trim (trimEnd text) = trim text := by
  obtain ⟨after, blank, whole⟩ := exists_trimEnd_append text
  have dropped : trim ([] ++ trimEnd text ++ after) = trim (trimEnd text) :=
    trim_append_blank (by simp) blank
  rwa [List.nil_append, ← whole, eq_comm] at dropped

theorem trim_append_solid (marker : Text) (filled : marker ≠ [])
    (first : ∀ c ∈ marker.head?, isBlank c = false)
    (last : ∀ c ∈ marker.getLast?, isBlank c = false) (text : Text) :
    trim (marker ++ text) = marker ++ trimEnd text := by
  have start : trimStart (marker ++ text) = marker ++ text := by
    apply trimStart_eq_self
    rwa [List.head?_append_of_ne_nil _ filled]
  obtain ⟨after, blank, whole⟩ := exists_trimEnd_append text
  rw [trim, start]
  conv_lhs => rw [whole, ← List.append_assoc, trimEnd_append_blank blank]
  apply trimEnd_eq_self
  intro c member
  by_cases nothing : trimEnd text = []
  · rw [nothing, List.append_nil] at member
    exact last c member
  · rw [List.getLast?_append_of_ne_nil _ nothing] at member
    exact getLast?_trimEnd member

end PlainQuiz.Text
