import PlainQuiz.Block.Reader
import PlainQuiz.Proofs.BlankOrder
import PlainQuiz.Proofs.Prompt
import PlainQuiz.Proofs.Terminal.Labels

set_option autoImplicit false

namespace PlainQuiz

namespace Prompt

def marked (segments marks : List Text) : Text :=
  (List.zipWith (· ++ ·) segments (marks ++ [[]])).flatten

end Prompt

namespace Question

open Filling Prompt Terminal

variable {question : Question} {chips : List Text} {fillings : List Text}

def gapMark (number : Nat) : Text := "[" ++ Text.ofNat number ++ "]"

theorem numberGaps_eq (first : Nat) {segments : List Text} {count : Nat}
    (length : segments.length = count + 1) :
    numberGaps first segments = marked segments ((List.range' first count).map gapMark) := by
  induction count generalizing first segments with
  | zero =>
    obtain ⟨segment, rfl⟩ := List.length_eq_one_iff.mp length
    simp [numberGaps, marked]
  | succ count ih =>
    obtain ⟨segment, rest, rfl⟩ := List.exists_cons_of_length_eq_add_one length
    have remaining : rest.length = count + 1 := by simpa using length
    have goesOn : rest ≠ [] := List.ne_nil_of_length_eq_add_one remaining
    rw [numberGaps.eq_3 _ _ _ goesOn, ih (first + 1) remaining]
    simp [marked, gapMark, List.range'_succ]

theorem said_of_unrefused {filled start : List Filling} {input : Input}
    (room : start.length ≤ question.blankCount)
    (done : (question.askBlanks chips start input).ending = .done filled)
    (unrefused : ∀ index,
      .line (takenMessage index) ∉ (question.askBlanks chips start input).said) :
    (question.askBlanks chips start input).said =
      blankRequests (start.length + 1) (question.blankCount - start.length) := by
  fun_induction Question.askBlanks question chips start input with
  | case1 start input full =>
    rw [Nat.sub_eq_zero_of_le full]
    rfl
  | case2 | case3 => contradiction
  -- A refusal says that the chip is taken.
  | case5 start unfilled request line rest typed index found used ih =>
    exact absurd (by simp [Turn.after]) (unrefused index)
  | case4 start unfilled request line rest typed unknown ih
  | case6 start unfilled request line rest typed index found used ih =>
    have left : question.blankCount - start.length =
        question.blankCount - (start.length + 1) + 1 := by omega
    have later := ih (by simp; omega) done fun index member =>
      unrefused index (List.mem_append_right _ member)
    rw [List.length_append, List.length_singleton] at later
    rw [left, blankRequests_succ, ← later]
    rfl

theorem attempt_said_of_unrefused (fill : question.kind = .fillBlank) {labels : Labels}
    {input : Input} {response : Response}
    (done : (question.attempt labels chips input).ending = .done response)
    (unrefused : ∀ index,
      .line (takenMessage index) ∉ (question.attempt labels chips input).said) :
    (question.attempt labels chips input).said = blankRequests 1 question.blankCount := by
  simp only [attempt, fill] at done unrefused ⊢
  obtain ⟨filled, ended, _⟩ := Turn.done_of_map done
  exact said_of_unrefused (Nat.zero_le _) ended unrefused

theorem exists_unrefused (fill : question.kind = .fillBlank) (labels : Labels)
    (chips : List Text) :
    ∃ input response, (question.attempt labels chips input).ending = .done response ∧
      ∀ index, .line (takenMessage index) ∉ (question.attempt labels chips input).said := by
  obtain ⟨line, unknown⟩ := Chips.exists_unknown chips
  obtain ⟨filled, accepted⟩ := exists_accepted_of_unknown unknown [] question.blankCount
  have count : ([] : List Filling).length + (List.replicate question.blankCount line).length =
      question.blankCount := by simp
  have run := askBlanks_of_accepted accepted count []
  refine ⟨(List.replicate question.blankCount line).map some ++ [], blanksOf chips filled, ?_, ?_⟩
  · simp only [attempt, fill, run]
    rfl
  · intro index
    simp only [attempt, fill, run]
    exact line_not_mem_blankRequests _ _ _

section Grading

variable {right : Bool}

def comparisons (question : Question) (fillings : List Text) : List (Text × Text) :=
  (fillings.zip question.answers).take question.blankCount

theorem blankCount_le_of_filled
    (filled : ∀ index < question.blankCount, isFilled fillings index = true) :
    question.blankCount ≤ fillings.length := by
  by_contra beyond
  obtain ⟨filling, here, _⟩ := isFilled_eq_true_iff.mp (filled fillings.length (by omega))
  simp at here

theorem fits_eq_of_getElem {index : Nat} (given : index < fillings.length)
    (answered : index < question.answers.length) :
    question.fits fillings index =
      Text.sameIgnoringCase fillings[index] question.answers[index] := by
  simp only [fits, List.getElem?_eq_getElem given, List.getElem?_eq_getElem answered]

theorem comparisons_of_graded (graded : question.gradeBlanks fillings = .ok right) :
    (question.comparisons fillings).length = question.blankCount ∧
      right = (question.comparisons fillings).all fun (filling, answer) =>
        Text.sameIgnoringCase filling answer := by
  have outcome := question.gradesBlanks fillings
  rw [graded] at outcome
  cases outcome with
  | compared filled enough =>
    have given := blankCount_le_of_filled filled
    have counted : (question.comparisons fillings).length = question.blankCount := by
      rw [comparisons, List.length_take, List.length_zip]
      omega
    refine ⟨counted, ?_⟩
    rw [Bool.eq_iff_iff, List.all_eq_true, List.all_eq_true,
      List.forall_mem_iff_getElem (l := question.comparisons fillings)]
    simp only [List.mem_range, counted]
    refine forall₂_congr fun index within => ?_
    rw [fits_eq_of_getElem (by omega) (by omega)]
    simp [comparisons]

theorem graded_of_filled (filled : ∀ index < question.blankCount, isFilled fillings index = true)
    (enough : question.blankCount ≤ question.answers.length) :
    question.gradeBlanks fillings =
      .ok ((List.range question.blankCount).all (question.fits fillings)) := by
  have outcome := question.gradesBlanks fillings
  generalize question.gradeBlanks fillings = result at outcome
  cases outcome with
  | gap index within empty _ => simp [filled index within] at empty
  | short _ few => omega
  | compared => rfl

theorem exists_graded_iff :
    (∃ fillings right, question.gradeBlanks fillings = .ok right) ↔
      question.blankCount ≤ question.answers.length := by
  constructor
  · rintro ⟨fillings, right, graded⟩
    have outcome := question.gradesBlanks fillings
    rw [graded] at outcome
    cases outcome with
    | compared _ enough => exact enough
  · intro enough
    refine ⟨List.replicate question.blankCount ['x'], _, graded_of_filled ?_ enough⟩
    intro index within
    exact isFilled_eq_true_iff.mpr ⟨['x'], by simp [within], by decide⟩

theorem exists_other_words (answer : Text) :
    ∃ text : Text, Text.trim text ≠ [] ∧ Text.lower text ≠ Text.lower answer := by
  by_cases same : Text.lower ['a'] = Text.lower answer
  · exact ⟨['b'], by decide, same ▸ by decide⟩
  · exact ⟨['a'], by decide, same⟩

theorem isFilled_set {text : Text} (solid : Text.trim text ≠ []) (place : Nat) {index : Nat}
    (filled : isFilled fillings index = true) :
    isFilled (fillings.set place text) index = true := by
  obtain ⟨filling, here, words⟩ := isFilled_eq_true_iff.mp filled
  by_cases same : place = index
  · subst same
    obtain ⟨within, _⟩ := List.getElem?_eq_some_iff.mp here
    exact isFilled_eq_true_iff.mpr ⟨text, List.getElem?_set_self within, solid⟩
  · exact isFilled_eq_true_iff.mpr ⟨filling, (List.getElem?_set_ne same).trans here, words⟩

theorem place_decides_iff (graded : question.gradeBlanks fillings = .ok true) (place : Nat) :
    (∃ text, question.gradeBlanks (fillings.set place text) = .ok false) ↔
      place < question.blankCount := by
  constructor
  · rintro ⟨text, spoiled⟩
    by_contra behind
    have kept : (fillings.set place text).take question.blankCount =
        fillings.take question.blankCount := List.take_set_of_le (Nat.le_of_not_lt behind)
    rw [gradeBlanks_of_take_eq kept rfl rfl, graded] at spoiled
    contradiction
  · intro within
    obtain ⟨enough, each⟩ := gradeBlanks_eq_ok_true_iff.mp graded
    obtain ⟨text, solid, other⟩ := exists_other_words question.answers[place]
    have given := blankCount_le_of_filled fun index below => (each index below).1
    have spoiled : question.fits (fillings.set place text) place = false := by
      rw [fits_eq_of_getElem (by rw [List.length_set]; omega) (by omega), List.getElem_set_self]
      simpa [Text.sameIgnoringCase] using other
    refine ⟨text, ?_⟩
    rw [graded_of_filled (fun index below => isFilled_set solid place (each index below).1) enough,
      Except.ok.injEq, List.all_eq_false]
    exact ⟨place, List.mem_range.mpr within, by simp [spoiled]⟩

end Grading

theorem blankCount_eq_tokens (fill : question.kind = .fillBlank)
    (contained : gap <:+: question.prompt) : question.blankCount = tokens question.prompt := by
  have positive := tokens_pos_of_infix contained
  rw [tokens_eq] at positive ⊢
  simp only [blankCount, fill]
  omega

/-- A prompt is its segments joined by the token, and there is one segment more than tokens. The
numbers on display, the requests of an attempt without a refusal and the fillings that are compared
with answers are as many as the tokens of the prompt. -/
theorem gaps_agree :
    (∀ prompt : Text, Text.join gap (segments prompt) = prompt ∧
      (∀ segment ∈ segments prompt, ¬ gap <:+: segment) ∧
      (segments prompt).length = countGaps prompt + 1 ∧ countGaps prompt = tokens prompt) ∧
    ∀ question : Question, question.kind = .fillBlank → gap <:+: question.prompt →
      question.blankCount = tokens question.prompt ∧
      (∀ labels number total chips input, ∃ later,
        (question.present labels number total chips input).said =
          .line (question.heading number total) ::
          .line (marked (segments question.prompt)
            ((List.range' 1 (tokens question.prompt)).map gapMark)) :: later) ∧
      (∀ labels chips, ∃ input response,
        (question.attempt labels chips input).ending = .done response ∧
          ∀ index, .line (takenMessage index) ∉ (question.attempt labels chips input).said) ∧
      (∀ labels chips input response,
        (question.attempt labels chips input).ending = .done response →
        (∀ index, .line (takenMessage index) ∉ (question.attempt labels chips input).said) →
        (question.attempt labels chips input).said = blankRequests 1 (tokens question.prompt)) ∧
      (∀ fillings right, question.gradeBlanks fillings = .ok right →
        (question.comparisons fillings).length = tokens question.prompt ∧
          right = (question.comparisons fillings).all fun (filling, answer) =>
            Text.sameIgnoringCase filling answer) ∧
      (∀ fillings, question.gradeBlanks fillings = .ok true → ∀ place,
        (∃ text, question.gradeBlanks (fillings.set place text) = .ok false) ↔
          place < tokens question.prompt) ∧
      ((∃ fillings right, question.gradeBlanks fillings = .ok right) ↔
        tokens question.prompt ≤ question.answers.length) := by
  refine ⟨fun prompt => ⟨join_segments prompt, fun _ => gap_not_infix, length_segments prompt,
    (tokens_eq prompt).symm⟩, fun question fill contained => ?_⟩
  rw [← blankCount_eq_tokens fill contained]
  refine ⟨rfl, fun labels number total chips input => ?display,
    exists_unrefused fill, fun labels chips input response => attempt_said_of_unrefused fill,
    fun fillings right => comparisons_of_graded, fun fillings => place_decides_iff,
    exists_graded_iff⟩
  case display =>
    have counted : (segments question.prompt).length = question.blankCount + 1 := by
      rw [length_segments, ← tokens_eq, blankCount_eq_tokens fill contained]
    rw [present, shown, fill, numberGaps_eq 1 counted]
    exact ⟨_, rfl⟩

-- Brackets around, between and behind the gaps are none.
def nestedGaps : Text := "-- Type fb\n-- Question [[blank][blank]] [blan\n-- Answer go, ΟΔΟΣ"

def nestedGapsQuestion : Question :=
  ⟨.fillBlank, "[[blank][blank]] [blan", [], [("go" : Text), "ΟΔΟΣ"], "go, ΟΔΟΣ"⟩

theorem gaps_agree_nested :
    ofBlock nestedGaps = .ok nestedGapsQuestion ∧
      segments nestedGapsQuestion.prompt = [("[" : Text), [], "] [blan"] ∧
      nestedGapsQuestion.blankCount = 2 ∧
      (∃ later, (nestedGapsQuestion.present .standard 1 1 [] []).said =
        .line (nestedGapsQuestion.heading 1 1) :: .line "[[1][2]] [blan" :: later) ∧
      (nestedGapsQuestion.attempt .standard [("go" : Text), "ΟΔΟΣ"]
        [some ("x " : Text), some "b"]).said = blankRequests 1 2 ∧
      ∃ text, nestedGapsQuestion.gradeBlanks ([("GO" : Text), "οδος"].set 1 text) = .ok false := by
  have parsed : ofBlock nestedGaps = .ok nestedGapsQuestion := by decide +kernel
  have contained : gap <:+: nestedGapsQuestion.prompt := by decide +kernel
  have counted : tokens nestedGapsQuestion.prompt = 2 := by decide +kernel
  have asked : nestedGapsQuestion.attempt .standard [("go" : Text), "ΟΔΟΣ"]
      [some ("x " : Text), some "b"] =
        ⟨[.request (blankHint 1), .request (blankHint 2)], .done (.blanks [("x" : Text), "ΟΔΟΣ"]),
          []⟩ := by
    decide +kernel
  have right : nestedGapsQuestion.gradeBlanks [("GO" : Text), "οδος"] = .ok true := by
    decide +kernel
  obtain ⟨-, agree⟩ := gaps_agree
  obtain ⟨blanks, display, -, requests, -, places, -⟩ := agree nestedGapsQuestion rfl contained
  rw [counted] at blanks display requests places
  refine ⟨parsed, by decide +kernel, blanks, display .standard 1 1 [] [],
    requests _ _ _ _ (congrArg Turn.ending asked) fun index => ?_,
    (places _ right 1).mpr (by decide)⟩
  rw [asked]
  simp

end Question

end PlainQuiz
