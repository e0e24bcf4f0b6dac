import PlainQuiz.Proofs.Access
import PlainQuiz.Proofs.Terminal.Filling

set_option autoImplicit false

namespace PlainQuiz

open Access

namespace Chips

def readsIndexed (chips : List Text) (word : Text) (index : Nat) : Except OutOfRange Bool := do
  let chip ← item chips index
  return Text.lower chip == word

def freeIndexed (chips : List Text) (used : List Bool) (word : Text) (index : Nat) :
    Except OutOfRange Bool := do
  let mark ← item used index
  if mark then return false else readsIndexed chips word index

def findIndexed (chips : List Text) (used : List Bool) (input : Text) :
    Except OutOfRange (Option Nat) := do
  let word := Text.lower input
  let places := List.range chips.length
  match ← places.findM? (freeIndexed chips used word) with
  | some index => return some index
  | none =>
    match ← places.findM? (readsIndexed chips word) with
    | some index => return some index
    | none => return places.find? fun index => label index == word

def marks (chips : List Text) (taken : List Nat) : List Bool :=
  (List.range chips.length).map (taken.contains ·)

section Marks

variable {chips : List Text} {taken : List Nat} {index : Nat}

theorem item_marks (within : index < chips.length) :
    item (marks chips taken) index = .ok (taken.contains index) := by
  rw [item_eq_ok_iff]
  simp [marks, within]

theorem replace_marks (within : index < chips.length) :
    replace (marks chips taken) index true = .ok (marks chips (taken ++ [index])) := by
  have inside : index < (marks chips taken).length := by simpa [marks] using within
  rw [replace_of_lt inside, Except.ok.injEq]
  apply List.ext_getElem
  · simp [marks]
  · intro place _ _
    by_cases same : index = place <;> simp [marks, same, Ne.symm]

theorem readsIndexed_eq (within : index < chips.length) (word : Text) :
    readsIndexed chips word index = .ok (reads chips word index) := by
  rw [readsIndexed, item_of_lt within, reads, List.getElem?_eq_getElem within]
  rfl

theorem freeIndexed_eq (within : index < chips.length) (word : Text) :
    freeIndexed chips (marks chips taken) word index =
      .ok (!taken.contains index && reads chips word index) := by
  rw [freeIndexed, item_marks within, readsIndexed_eq within]
  cases taken.contains index <;> rfl

end Marks

theorem findIndexed_eq (chips : List Text) (taken : List Nat) (input : Text) :
    findIndexed chips (marks chips taken) input = .ok (find chips taken input) := by
  have free : (List.range chips.length).findM?
      (freeIndexed chips (marks chips taken) (Text.lower input)) = .ok _ :=
    findM?_of_ok fun index member => freeIndexed_eq (List.mem_range.mp member) _
  have any : (List.range chips.length).findM? (readsIndexed chips (Text.lower input)) = .ok _ :=
    findM?_of_ok fun index member => readsIndexed_eq (List.mem_range.mp member) _
  simp only [findIndexed, free, any, find]
  cases (List.range chips.length).find? fun index =>
      !taken.contains index && reads chips (Text.lower input) index with
  | some index => rfl
  | none =>
    cases (List.range chips.length).find? (reads chips (Text.lower input)) with
    | some index => rfl
    | none => rfl

end Chips

structure Tray where
  used : List Bool
  words : List Text
  deriving DecidableEq, Repr

namespace Tray

open Chips Filling Question

def fresh (chips : List Text) : Tray := ⟨List.replicate chips.length false, []⟩

def put (chips : List Text) (tray : Tray) (typed : Text) :
    Except OutOfRange (Tray × Option Nat) := do
  match ← findIndexed chips tray.used typed with
  | none => return ({ tray with words := tray.words ++ [typed] }, none)
  | some index =>
    let mark ← item tray.used index
    if mark then return (tray, some index)
    else
      let used ← replace tray.used index true
      let chip ← item chips index
      return (⟨used, tray.words ++ [chip]⟩, none)

def collect (question : Question) (chips : List Text) (tray : Tray) (input : Input) :
    Except OutOfRange (Turn Tray) :=
  if question.blankCount ≤ tray.words.length then .ok ⟨[], .done tray, input⟩
  else
    let request := Utterance.request (blankHint (tray.words.length + 1))
    match input with
    | [] => .ok ⟨[request], .exhausted, []⟩
    | none :: rest => .ok ⟨[request], .unreadable, rest⟩
    | some line :: rest => do
      let (next, refused) ← put chips tray (Text.trim line)
      let turn ← collect question chips next rest
      return turn.after (request :: (refused.map fun index => .line (takenMessage index)).toList)

def ofFillings (chips : List Text) (fillings : List Filling) : Tray :=
  ⟨marks chips (taken fillings), fillings.map (text chips)⟩

variable {question : Question} {chips : List Text} {fillings : List Filling} {line : Text}

theorem ofFillings_nil (chips : List Text) : ofFillings chips [] = fresh chips := by
  simp [ofFillings, fresh, marks, taken, List.map_const']

theorem put_of_adds {filling : Filling} (adds : Adds chips fillings line filling) :
    put chips (ofFillings chips fillings) (Text.trim line) =
      .ok (ofFillings chips (fillings ++ [filling]), none) := by
  cases adds with
  | @chip index found free =>
    have within := find_lt found
    have unmarked : (taken fillings).contains index = false := by simpa using free
    have text : chips[index] = Filling.text chips (.chip index) := by simp [Filling.text, within]
    simp only [put, ofFillings, findIndexed_eq, found, ok_bind, item_marks within, unmarked,
      replace_marks within, item_of_lt within, taken_concat_chip, List.map_append, text]
    rfl
  | typed unknown =>
    simp only [put, ofFillings, findIndexed_eq, unknown, ok_bind, taken_concat_typed,
      List.map_append]
    rfl

theorem put_of_taken {index : Nat}
    (found : Chips.find chips (taken fillings) (Text.trim line) = some index)
    (used : index ∈ taken fillings) :
    put chips (ofFillings chips fillings) (Text.trim line) =
      .ok (ofFillings chips fillings, some index) := by
  have marked : (taken fillings).contains index = true := by simpa using used
  simp only [put, ofFillings, findIndexed_eq, found, ok_bind, item_marks (find_lt found), marked]
  rfl

theorem eq_of_refused {tray next : Tray} {typed : Text} {index : Nat}
    (refused : put chips tray typed = .ok (next, some index)) :
    next = tray ∧ tray.used[index]? = some true := by
  obtain ⟨place, -, refused⟩ := exists_of_bind refused
  cases place with
  | none => cases refused
  | some place =>
    obtain ⟨mark, marked, refused⟩ := exists_of_bind refused
    cases mark with
    | true =>
      cases refused
      exact ⟨rfl, item_eq_ok_iff.mp marked⟩
    | false =>
      obtain ⟨used, -, refused⟩ := exists_of_bind refused
      obtain ⟨chip, -, refused⟩ := exists_of_bind refused
      cases refused

theorem collect_of_put {tray next : Tray} {refused : Option Nat}
    (unfilled : ¬ question.blankCount ≤ tray.words.length)
    (read : put chips tray (Text.trim line) = .ok (next, refused)) (rest : Input) :
    collect question chips tray (some line :: rest) = do
      let turn ← collect question chips next rest
      return turn.after (.request (blankHint (tray.words.length + 1)) ::
        (refused.map fun index => .line (takenMessage index)).toList) := by
  rw [collect, if_neg unfilled]
  simp only [read, ok_bind]

theorem collect_ofFillings (question : Question) (chips : List Text) (fillings : List Filling)
    (input : Input) :
    collect question chips (ofFillings chips fillings) input =
      .ok ((question.askBlanks chips fillings input).map (ofFillings chips)) := by
  have counted (fillings : List Filling) :
      (ofFillings chips fillings).words.length = fillings.length := List.length_map ..
  fun_induction Question.askBlanks question chips fillings input with
  | case1 fillings input full =>
    rw [collect, counted, if_pos full]
    rfl
  | case2 fillings full | case3 fillings full =>
    rw [collect, counted, if_neg full]
    rfl
  | case4 fillings full request line rest typed unknown ih =>
    have adds : Adds chips fillings line (.typed typed) := .typed unknown
    rw [collect_of_put (by rwa [counted]) (put_of_adds adds), ih, counted]
    rfl
  | case5 fillings full request line rest typed index found used ih =>
    have again : index ∈ taken fillings := by simpa using used
    rw [collect_of_put (by rwa [counted]) (put_of_taken found again), ih, counted]
    rfl
  | case6 fillings full request line rest typed index found used ih =>
    have adds : Adds chips fillings line (.chip index) := .chip found (by simpa using used)
    rw [collect_of_put (by rwa [counted]) (put_of_adds adds), ih, counted]
    rfl

open Terminal in
/-- A session that fills blanks never reads or sets a mark or a chip that is not there, and a
refused line changes nothing. In what it hands in, every blank is filled, no chip fills two of them,
and no words that chips read like fill more of them than there are such chips. The lines that were
refused could as well have been left out. -/
theorem no_chip_fills_two_blanks (question : Question) (chips : List Text) (input : Input) :
    collect question chips (fresh chips) input =
      .ok ((question.askBlanks chips [] input).map (ofFillings chips)) ∧
    (∀ tray typed next index, put chips tray typed = .ok (next, some index) →
      next = tray ∧ tray.used[index]? = some true) ∧
    ∀ filled : List Filling, (question.askBlanks chips [] input).ending = .done filled →
      filled.length = question.blankCount ∧
      (∀ first second index : Nat, filled[first]? = some (.chip index) →
        filled[second]? = some (.chip index) → first = second) ∧
      (∀ index, .chip index ∈ filled → index < chips.length) ∧
      (∀ word, (∃ chip ∈ chips, Text.lower chip = Text.lower word) →
        (filled.map (text chips)).countP (Text.lower · == Text.lower word) ≤
          chips.countP (Text.lower · == Text.lower word)) ∧
      ∃ (consumed : Input) (lines : List Text) (rest : Input), input = consumed ++ rest ∧
        (lines.map some).Sublist consumed ∧
        question.askBlanks chips [] (lines.map some ++ rest) =
          ⟨blankRequests 1 question.blankCount, .done filled, rest⟩ := by
  refine ⟨?_, fun _ _ _ _ => eq_of_refused, fun filled done => ?_⟩
  · rw [← ofFillings_nil, collect_ofFillings]
  · obtain ⟨consumed, lines, whole, among, count, accepted⟩ :=
      exists_accepted_of_done (Nat.zero_le _) done
    have counted : lines.length = question.blankCount := by simpa using count
    have placed : Placed chips filled := .of_accepted accepted
    refine ⟨?_, fun _ _ _ => placed.chip_unique, fun index member => ?_,
      fun word => placed.countP_text_le, consumed, lines, _, whole, among, ?_⟩
    · rw [accepted.length_eq, List.length_nil, Nat.zero_add, counted]
    · exact placed.offered index (List.mem_filterMap.mpr ⟨_, member, rfl⟩)
    · rw [askBlanks_of_accepted accepted count, counted]
      rfl

-- Two chips read alike, and the third is named by its label.
def alikeChips : List Text := ["go", "Go", "b"]

def alikeQuestion : Question :=
  ⟨.fillBlank, "[blank] [blank] [blank]", [], [("go" : Text), "Go", "b"], "go, Go, b"⟩

def alikeInput : Input := ([" GO", "go", "gO\t", "c"] : List String).map (some ↑·)

theorem no_chip_fills_two_blanks_alike :
    (alikeQuestion.askBlanks alikeChips [] alikeInput).ending =
        .done [.chip 0, .chip 1, .chip 2] ∧
      collect alikeQuestion alikeChips (fresh alikeChips) alikeInput =
        .ok ((alikeQuestion.askBlanks alikeChips [] alikeInput).map (ofFillings alikeChips)) ∧
      put alikeChips ⟨[true, true, false], ["go", "Go"]⟩ "gO" =
        .ok (⟨[true, true, false], ["go", "Go"]⟩, some 0) ∧
      [("go" : Text), "Go", "b"].countP (Text.lower · == Text.lower "GO") ≤
        alikeChips.countP (Text.lower · == Text.lower "GO") := by
  have done : (alikeQuestion.askBlanks alikeChips [] alikeInput).ending =
      .done [.chip 0, .chip 1, .chip 2] := by decide +kernel
  have refused : put alikeChips ⟨[true, true, false], ["go", "Go"]⟩ "gO" =
      .ok (⟨[true, true, false], ["go", "Go"]⟩, some 0) := by decide +kernel
  obtain ⟨run, -, handedIn⟩ := no_chip_fills_two_blanks alikeQuestion alikeChips alikeInput
  obtain ⟨-, -, -, bound, -⟩ := handedIn _ done
  exact ⟨done, run, refused, bound "GO" ⟨"go", by decide, by decide⟩⟩

end Tray

end PlainQuiz
