import PlainQuiz.Proofs.Block.Finish
import PlainQuiz.Proofs.Text.LetterCase

set_option autoImplicit false

namespace PlainQuiz

theorem Answer.interpret_ne_nil (kind : Kind) (prompt text : Text) :
    interpret kind prompt text ≠ [] := by
  have pieces : Text.splitCommas text ≠ [] := by simp [Text.splitCommas]
  cases kind with
  | fillBlank =>
    rw [interpret]
    split_ifs
    · exact List.cons_ne_nil _ _
    · exact pieces
  | trueFalse => exact List.cons_ne_nil _ _
  | multipleChoice | freeText | sort => exact pieces

namespace Block

-- The keyword may be written in any letter case, but the marker before it has no letters.
theorem isDirective_of_isAnswer {line : Text} (answers : isAnswer line = true) :
    isDirective line = true := by
  have lowered : (line.take 3).map Char.toLower = marker := by
    have whole := congrArg (List.take 3) (Text.map_toLower_eq answers)
    rwa [← List.map_take, List.take_take] at whole
  have kept : (line.take 3).map Char.toLower = line.take 3 := by
    refine (List.map_congr_left fun c member => ?_).trans (List.map_id _)
    have among : c.toLower ∈ marker := lowered ▸ List.mem_map_of_mem member
    have mute : marker.all (!·.isAlpha) = true := rfl
    exact Text.toLower_eq_self (by simpa using List.all_eq_true.mp mute _ among)
  rw [isDirective, List.isPrefixOf_iff_prefix, ← lowered, kept]
  exact List.take_prefix 3 line

namespace Reading

inductive Captures (above : List Text) (line : Text) : Text → Prop
  | inline (answers : isAnswer line = true) (filled : words answerMarker line ≠ []) :
    Captures above line (words answerMarker line)
  -- A line further down is not the first content line, or has a directive in between.
  | below {earlier : List Text} {bare : Text} (follows : above = earlier ++ [bare])
    (answers : isBareAnswer bare = true) (content : isDirective line = false) :
    Captures above line line

-- None of the lines captures a text.
def Silent (above : List Text) : List Text → Prop
  | [] => True
  | line :: rest => (∀ text, ¬ Captures above line text) ∧ Silent (above ++ [line]) rest

inductive LastCapture (lines above : List Text) (text : Text) : Prop
  | intro {line : Text} {below : List Text} (whole : lines = above ++ line :: below)
    (captures : Captures above line text) (silent : Silent (above ++ [line]) below)

theorem owner_eq_inAnswer_iff {above : List Text} :
    owner above = .inAnswer ↔
      ∃ earlier bare, above = earlier ++ [bare] ∧ isBareAnswer bare = true := by
  constructor
  · intro owned
    unfold owner at owned
    cases nearest : nearest? above with
    | none => simp [nearest] at owned
    | some directive =>
      simp only [nearest] at owned
      split_ifs at owned with prompt bare last
      obtain ⟨earlier, whole⟩ := List.getLast?_eq_some_iff.mp last
      exact ⟨earlier, directive, whole, bare⟩
  · rintro ⟨earlier, bare, rfl, answers⟩
    have marked : isAnswer bare = true := (Bool.and_eq_true_iff.mp answers).1
    have notPrompt : isBarePrompt bare = false := by
      simp [isBarePrompt, isPrompt_of_isAnswer marked]
    rw [owner_concat_directive (isDirective_of_isAnswer marked), notPrompt, answers]
    rfl

theorem answer?_eq_some_iff {above : List Text} {line text : Text} :
    answer? above line = some text ↔ Captures above line text := by
  constructor
  · intro given
    unfold answer? at given
    split_ifs at given with directive marked owned
    · obtain rfl := Option.some.inj given
      obtain ⟨answers, filled⟩ := Bool.and_eq_true_iff.mp marked
      exact .inline answers (by simpa using filled)
    · obtain rfl := Option.some.inj given
      obtain ⟨earlier, bare, follows, answers⟩ := owner_eq_inAnswer_iff.mp owned
      exact .below follows answers (Bool.eq_false_iff.mpr directive)
  · intro captures
    cases captures with
    | inline answers filled => simp [answer?, isDirective_of_isAnswer answers, answers, filled]
    | below follows answers content =>
      have owned := owner_eq_inAnswer_iff.mpr ⟨_, _, follows, answers⟩
      simp [answer?, content, owned]

theorem answer?_eq_none_iff {above : List Text} {line : Text} :
    answer? above line = none ↔ ∀ text, ¬ Captures above line text := by
  simp [Option.eq_none_iff_forall_ne_some, answer?_eq_some_iff]

instance decidableSilent (above : List Text) : (lines : List Text) → Decidable (Silent above lines)
  | [] => isTrue trivial
  | line :: rest =>
    have := decidableSilent (above ++ [line]) rest
    decidable_of_iff (answer? above line = none ∧ Silent (above ++ [line]) rest)
      (and_congr_left' answer?_eq_none_iff)

theorem silent_concat {above lines : List Text} {line : Text} :
    Silent above (lines ++ [line]) ↔
      Silent above lines ∧ ∀ text, ¬ Captures (above ++ lines) line text := by
  induction lines generalizing above with
  | nil => simp [Silent]
  | cons first rest ih => simp [Silent, ih, and_assoc]

theorem lastAnswer?_append_silent {above more : List Text} (silent : Silent above more) :
    lastAnswer? (above ++ more) = lastAnswer? above := by
  induction more generalizing above with
  | nil => rw [List.append_nil]
  | cons line rest ih =>
    obtain ⟨here, later⟩ := silent
    rw [List.append_cons, ih later, lastAnswer?_concat, answer?_eq_none_iff.mpr here]

theorem lastAnswer?_of_silent {lines : List Text} (silent : Silent [] lines) :
    lastAnswer? lines = none :=
  lastAnswer?_append_silent silent

theorem lastAnswer?_of_lastCapture {lines above : List Text} {text : Text}
    (last : LastCapture lines above text) : lastAnswer? lines = some (above, text) := by
  obtain ⟨rfl, captures, silent⟩ := last
  rw [List.append_cons, lastAnswer?_append_silent silent, lastAnswer?_concat,
    answer?_eq_some_iff.mpr captures]

theorem LastCapture.concat {lines above : List Text} {text line : Text}
    (last : LastCapture lines above text) (nothing : ∀ other, ¬ Captures lines line other) :
    LastCapture (lines ++ [line]) above text := by
  obtain @⟨answering, below, rfl, captures, silent⟩ := last
  refine ⟨List.append_assoc _ _ _, captures, silent_concat.mpr ⟨silent, ?_⟩⟩
  rwa [List.append_assoc, List.singleton_append]

theorem silent_or_lastCapture (lines : List Text) :
    Silent [] lines ∨ ∃ above text, LastCapture lines above text := by
  induction lines using List.reverseRecOn with
  | nil => exact .inl trivial
  | append_singleton lines line ih =>
    cases given : answer? lines line with
    | some text => exact .inr ⟨lines, text, rfl, answer?_eq_some_iff.mp given, trivial⟩
    | none =>
      have nothing := answer?_eq_none_iff.mp given
      rcases ih with silent | ⟨above, text, last⟩
      · exact .inl (silent_concat.mpr ⟨silent, nothing⟩)
      · exact .inr ⟨above, text, last.concat nothing⟩

theorem lastAnswer?_eq_none_iff {lines : List Text} :
    lastAnswer? lines = none ↔ Silent [] lines := by
  refine ⟨fun unanswered => (silent_or_lastCapture lines).resolve_right ?_, lastAnswer?_of_silent⟩
  rintro ⟨above, text, last⟩
  simp [lastAnswer?_of_lastCapture last] at unanswered

theorem lastAnswer?_eq_some_iff {lines above : List Text} {text : Text} :
    lastAnswer? lines = some (above, text) ↔ LastCapture lines above text := by
  refine ⟨fun found => ?_, lastAnswer?_of_lastCapture⟩
  rcases silent_or_lastCapture lines with silent | ⟨place, captured, last⟩
  · simp [lastAnswer?_of_silent silent] at found
  · obtain ⟨rfl, rfl⟩ := Prod.mk.inj
      (Option.some.inj ((lastAnswer?_of_lastCapture last).symm.trans found))
    exact last

theorem isKind_of_captures {above : List Text} {line text : Text}
    (captures : Captures above line text) : isKind line = false := by
  cases captures with
  | inline answers _ => exact isKind_of_isAnswer answers
  | below _ _ content => exact isKind_of_content content

theorem kind_append {below : List Text} (unnamed : ∀ line ∈ below, isKind line = false)
    (lines : List Text) : kind (lines ++ below) = kind lines := by
  have nothing : below.reverse.find? isKind = none := by
    simpa [List.find?_eq_none] using unnamed
  simp [kind, List.find?_append, nothing]

inductive KindSettled (lines : List Text) : Prop
  | intro {above below : List Text} {line text : Text} (whole : lines = above ++ line :: below)
    (captures : Captures above line text) (silent : Silent (above ++ [line]) below)
    (unnamed : ∀ next ∈ below, isKind next = false)

theorem KindSettled.exists_lastAnswer? {lines : List Text} (settled : KindSettled lines) :
    ∃ above text, lastAnswer? lines = some (above, text) ∧ kind above = kind lines := by
  obtain @⟨above, below, line, text, whole, captures, silent, unnamed⟩ := settled
  refine ⟨above, text, lastAnswer?_of_lastCapture ⟨whole, captures, silent⟩, ?_⟩
  have here := isKind_of_captures captures
  rw [whole, kind_append (List.forall_mem_cons.mpr ⟨here, unnamed⟩)]

theorem answers_eq_nil_iff {lines : List Text} : answers lines = [] ↔ Silent [] lines := by
  rw [← lastAnswer?_eq_none_iff, answers]
  cases lastAnswer? lines with
  | none => simp
  | some place => simp [Answer.interpret_ne_nil]

end Reading

theorem Draft.finish_eq_noAnswer_iff {draft : Draft} :
    draft.finish = .error .noAnswer ↔ draft.settlePrompt.prompt ≠ [] ∧ draft.answers = [] := by
  obtain ⟨-, answers, -⟩ := settlePrompt_keeps draft
  unfold finish
  dsimp only
  rw [answers]
  split_ifs <;> simp_all

end Block

open Block Reading

namespace Question

variable {source : Text} {question : Question}

theorem ofBlock_eq_noAnswer_iff :
    ofBlock source = .error .noAnswer ↔
      Text.trim source ≠ [] ∧ (Block.draft source).settlePrompt.prompt ≠ [] ∧
        Silent [] (contentLines source) := by
  have answers : (Block.draft source).answers = Reading.answers (contentLines source) := by
    rw [Reading.draft_eq, Reading.draft]
  rw [← answers_eq_nil_iff, ← answers, ← Draft.finish_eq_noAnswer_iff, ofBlock]
  split_ifs with blank
  · simp [blank]
  · simp [blank]

theorem answers_of_lastCapture (parsed : ofBlock source = .ok question) {above : List Text}
    {text : Text} (last : LastCapture (contentLines source) above text) :
    question.rawAnswer = text ∧
      question.answers = Answer.interpret (Reading.kind above) (Reading.prompt above) text := by
  obtain ⟨found, answer, captured, interpreted, raw⟩ := answered_of_ofBlock parsed
  have same := captured.symm.trans (lastAnswer?_eq_some_iff.mpr last)
  obtain ⟨rfl, rfl⟩ := Prod.mk.inj (Option.some.inj same)
  exact ⟨raw, interpreted⟩

theorem answers_of_kindSettled (parsed : ofBlock source = .ok question)
    (settled : KindSettled (contentLines source)) :
    ∃ prompt, question.answers = Answer.interpret question.kind prompt question.rawAnswer := by
  obtain ⟨above, text, last, kept⟩ := settled.exists_lastAnswer?
  obtain ⟨raw, answers⟩ := answers_of_lastCapture parsed (lastAnswer?_eq_some_iff.mp last)
  refine ⟨Reading.prompt above, ?_⟩
  rw [answers, raw, kind_of_ofBlock parsed, kept]

theorem answer_is_last_capture (source : Text) :
    (Silent [] (contentLines source) → ∀ question, ofBlock source ≠ .ok question) ∧
    (ofBlock source = .error .noAnswer ↔
      Text.trim source ≠ [] ∧ (Block.draft source).settlePrompt.prompt ≠ [] ∧
        Silent [] (contentLines source)) ∧
    ∀ question, ofBlock source = .ok question →
      (∃ above text, LastCapture (contentLines source) above text) ∧
      (∀ above text, LastCapture (contentLines source) above text →
        question.rawAnswer = text ∧
          question.answers = Answer.interpret (Reading.kind above) (Reading.prompt above) text) ∧
      ∀ longer later other, contentLines longer = contentLines source ++ later →
        Silent (contentLines source) later → ofBlock longer = .ok other →
        other.rawAnswer = question.rawAnswer ∧ other.answers = question.answers := by
  refine ⟨?unanswered, ofBlock_eq_noAnswer_iff, fun question parsed => ⟨?some, ?last, ?kept⟩⟩
  case unanswered =>
    intro silent question parsed
    obtain ⟨above, text, last, _⟩ := answered_of_ofBlock parsed
    simp [lastAnswer?_eq_none_iff.mpr silent] at last
  case some =>
    obtain ⟨above, text, last, _⟩ := answered_of_ofBlock parsed
    exact ⟨above, text, lastAnswer?_eq_some_iff.mp last⟩
  case last =>
    exact fun above text last => answers_of_lastCapture parsed last
  case kept =>
    intro longer later other extended silent parsedLonger
    obtain ⟨above, text, last, _⟩ := answered_of_ofBlock parsed
    have same : lastAnswer? (contentLines longer) = some (above, text) := by
      rw [extended, lastAnswer?_append_silent silent, last]
    obtain ⟨raw, answers⟩ := answers_of_lastCapture parsed (lastAnswer?_eq_some_iff.mp last)
    obtain ⟨rawLonger, answersLonger⟩ :=
      answers_of_lastCapture parsedLonger (lastAnswer?_eq_some_iff.mp same)
    exact ⟨rawLonger.trans raw.symm, answersLonger.trans answers.symm⟩

-- One gap is known when the answer is read, so its comma separates nothing.
def oneGap : Text := "-- Type fb\n-- Question [blank]\n-- Answer\n  a, b"

def oneGapQuestion : Question := ⟨.fillBlank, "[blank]", [], [("a, b" : Text)], "a, b"⟩

def laterLines : List Text :=
  ["-- Question [blank] or [blank]", "-- Answer", "-- Type tf", "-- A", "x", "-- B"]

def laterGaps : Text := Text.join "\n" (oneGap :: laterLines)

def laterGapsQuestion : Question :=
  ⟨.trueFalse, "[blank] or [blank]", [⟨"A", "x"⟩, ⟨"B", []⟩], [("a, b" : Text)], "a, b"⟩

def interrupted : Text := "-- Question Q\n-- Answer\n-- A\nx"

theorem answer_is_last_capture_oneGap :
    ofBlock oneGap = .ok oneGapQuestion ∧ ofBlock laterGaps = .ok laterGapsQuestion ∧
      contentLines laterGaps = contentLines oneGap ++ laterLines ∧
      Silent (contentLines oneGap) laterLines ∧
      LastCapture (contentLines oneGap) ["-- Type fb", "-- Question [blank]", "-- Answer"] "a, b" ∧
      oneGapQuestion.answers = Answer.interpret .fillBlank "[blank]" "a, b" ∧
      laterGapsQuestion.answers = oneGapQuestion.answers ∧
      Silent [] (contentLines interrupted) ∧ ofBlock interrupted = .error .noAnswer := by
  have parsed : ofBlock oneGap = .ok oneGapQuestion := by decide
  have parsedLater : ofBlock laterGaps = .ok laterGapsQuestion := by decide
  have extended : contentLines laterGaps = contentLines oneGap ++ laterLines := by decide
  have silent : Silent (contentLines oneGap) laterLines := by decide
  have last : LastCapture (contentLines oneGap)
      ["-- Type fb", "-- Question [blank]", "-- Answer"] "a, b" :=
    lastAnswer?_eq_some_iff.mp (by decide)
  have unanswered : Silent [] (contentLines interrupted) := by decide
  obtain ⟨-, -, answered⟩ := answer_is_last_capture oneGap
  obtain ⟨-, captured, kept⟩ := answered oneGapQuestion parsed
  obtain ⟨-, noAnswer, -⟩ := answer_is_last_capture interrupted
  exact ⟨parsed, parsedLater, extended, silent, last, (captured _ _ last).2,
    (kept laterGaps laterLines laterGapsQuestion extended silent parsedLater).2, unanswered,
    noAnswer.mpr ⟨by decide, by decide, unanswered⟩⟩

end Question

end PlainQuiz
