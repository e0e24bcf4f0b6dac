import PlainQuiz.Proofs.Block.Growth
import PlainQuiz.Proofs.Text.Cut

set_option autoImplicit false

namespace PlainQuiz.Block

inductive Fault where
  | namelessKind
  | brokenKeyword (line : Text)
  | missingOption (index : Nat)
  -- A content line that a prompt over several lines should have taken.
  | openPrompt
  deriving DecidableEq, Repr

def front? (marker line : Text) : Option Text :=
  (Text.cutAt? line (Text.encode marker).length).map Prod.fst

def behind? (marker line : Text) : Option Text :=
  (Text.cutAt? line (Text.encode marker).length).map Prod.snd

namespace Reader

def feedDirective (reader : Reader) (line : Text) : Except Fault Reader :=
  if (front? answerMarker line).any (Text.sameIgnoringAsciiCase · answerMarker) then
    match behind? answerMarker line with
    | none => .error (.brokenKeyword line)
    | some rest =>
      .ok (if Text.trim rest = [] then { reader with mode := .inAnswer }
        else ⟨.idle, reader.draft.setAnswer (Text.trim rest)⟩)
  else
    match behind? marker line with
    | none => .error (.brokenKeyword line)
    | some rest =>
      let draft := reader.draft.addOption (Text.trim rest)
      .ok ⟨.inOption (draft.options.length - 1), draft⟩

def feedContent (reader : Reader) (line : Text) : Except Fault Reader :=
  match reader.mode with
  | .inAnswer => .ok ⟨.idle, reader.draft.setAnswer line⟩
  | .inOption index =>
    match reader.draft.options[index]? with
    | none => .error (.missingOption index)
    | some _ => .ok { reader with draft := reader.draft.addOptionLine index line }
  | .idle =>
    .ok (if reader.draft.takesPrompt line then { reader with draft.prompt := line } else reader)
  | .inPrompt => .error .openPrompt

def feed (reader : Reader) (raw : Text) : Except Fault Reader :=
  let line := Text.trim raw
  if line = [] then .ok reader
  else if isKind line then
    if words kindMarker line = [] then .error .namelessKind
    else .ok ⟨.idle, { reader.draft with kind := Kind.ofTag (words kindMarker line) }⟩
  else if isPrompt line then
    .ok (if words promptMarker line = [] then { reader with mode := .inPrompt }
      else ⟨.idle, { reader.draft with prompt := words promptMarker line }⟩)
  else if reader.mode = .inPrompt ∧ isDirective line = false then
    .ok { reader with draft := reader.draft.addPromptLine line }
  else
    let reader := { reader with mode := reader.mode.atDirective }
    if isDirective line then reader.feedDirective line else reader.feedContent line

def feedAll (reader : Reader) (raws : List Text) : Except Fault Reader := raws.foldlM feed reader

end Reader

theorem cutAt?_marker {line : Text} (directive : isDirective line = true) :
    Text.cutAt? line 3 = some (marker, line.drop 3) := by
  obtain ⟨rest, rfl⟩ := exists_append_of_marker directive
  exact Text.cutAt?_eq_some_iff.mpr ⟨rfl, rfl⟩

theorem length_of_same {text word : Text} (same : Text.sameIgnoringAsciiCase text word = true) :
    text.length = word.length := by
  simpa using congrArg List.length (Text.map_toLower_eq same)

theorem cutAt?_answerMarker {line : Text} (answers : isAnswer line = true) :
    Text.cutAt? line 9 = some (line.take 9, line.drop 9) := by
  have ascii : ∀ c ∈ line.take 9, Text.isAscii c = true :=
    Text.isAscii_of_same answers (List.all_eq_true.mp rfl)
  have counted : (line.take 9).length = 9 := length_of_same answers
  refine Text.cutAt?_eq_some_iff.mpr ⟨(List.take_append_drop 9 line).symm, ?_⟩
  rw [Text.length_encode_of_isAscii ascii, counted]

theorem behind?_marker {line : Text} (directive : isDirective line = true) :
    behind? marker line = some (line.drop marker.length) :=
  congrArg (Option.map Prod.snd) (cutAt?_marker directive)

theorem behind?_answerMarker {line : Text} (answers : isAnswer line = true) :
    behind? answerMarker line = some (line.drop answerMarker.length) :=
  congrArg (Option.map Prod.snd) (cutAt?_answerMarker answers)

theorem any_front?_answerMarker (line : Text) :
    (front? answerMarker line).any (Text.sameIgnoringAsciiCase · answerMarker) =
      isAnswer line := by
  rw [Bool.eq_iff_iff, front?]
  constructor
  · intro found
    cases cut : Text.cutAt? line (Text.encode answerMarker).length with
    | none => simp [cut] at found
    | some halves =>
      obtain ⟨before, after⟩ := halves
      have same : Text.sameIgnoringAsciiCase before answerMarker = true := by
        simpa [cut] using found
      obtain ⟨rfl, -⟩ := Text.cutAt?_eq_some_iff.mp cut
      rwa [isAnswer, ← length_of_same same, List.take_left]
  · intro answers
    have cut : Text.cutAt? line (Text.encode answerMarker).length = _ := cutAt?_answerMarker answers
    rw [cut]
    exact answers

namespace Reader

structure IsSound (reader : Reader) : Prop where
  option : ∀ index, reader.mode = .inOption index → index + 1 = reader.draft.options.length
  answered : reader.draft.answers = [] ↔ reader.draft.rawAnswer = []

theorem isSound_start : start.IsSound := ⟨by simp [start], by simp [start, Draft.blank]⟩

variable {reader next : Reader} {line raw : Text}

section Line

variable (filled : line ≠ []) (trimmed : Text.trim line = line)

include filled trimmed

theorem feed_kind (names : isKind line = true) :
    reader.feed line = .ok (reader.step (Line.ofText line)) := by
  have named := words_kind_ne_nil names trimmed
  simp [feed, trimmed, filled, names, named, ofText_kind names, step]

theorem feed_prompt (prompts : isPrompt line = true) :
    reader.feed line = .ok (reader.step (Line.ofText line)) := by
  have notKind := isKind_of_isPrompt prompts
  simp [feed, trimmed, filled, notKind, prompts, ofText_prompt prompts, step]

theorem feed_directive (directive : isDirective line = true) (notKind : isKind line = false)
    (notPrompt : isPrompt line = false) :
    reader.feed line = .ok (reader.step (Line.ofText line)) := by
  simp only [feed, trimmed, filled, notKind, notPrompt, directive, if_false, if_true, and_false,
    Bool.false_eq_true, reduceCtorEq]
  by_cases answers : isAnswer line = true
  · simp only [feedDirective, any_front?_answerMarker, answers, behind?_answerMarker answers,
      if_true, ofText_answer directive answers, step]
    rfl
  · have option : isOption line = true := by simp [isOption, directive, notKind, notPrompt, answers]
    simp only [feedDirective, any_front?_answerMarker, answers, behind?_marker directive,
      ofText_option option, step, Draft.addOption, List.length_append]
    rfl

theorem feed_content (sound : reader.IsSound) (content : isDirective line = false) :
    reader.feed line = .ok (reader.step (Line.ofText line)) := by
  simp only [feed, trimmed, filled, isKind_of_content content, isPrompt_of_content content, content,
    if_false, and_true, Bool.false_eq_true, ofText_content content]
  obtain ⟨mode, draft⟩ := reader
  cases mode with
  | inPrompt => rfl
  | inAnswer => rfl
  | idle =>
    simp only [reduceCtorEq, if_false, feedContent, Mode.atDirective, step]
  | inOption index =>
    have last : index + 1 = draft.options.length := sound.option index rfl
    have here : draft.options[index]? = some draft.options[index] :=
      List.getElem?_eq_getElem (by omega)
    simp only [reduceCtorEq, if_false, feedContent, Mode.atDirective, step, here]

theorem feed_filled (sound : reader.IsSound) :
    reader.feed line = .ok (reader.step (Line.ofText line)) := by
  by_cases names : isKind line = true
  · exact feed_kind filled trimmed names
  · by_cases prompts : isPrompt line = true
    · exact feed_prompt filled trimmed prompts
    · by_cases directive : isDirective line = true
      · exact feed_directive filled trimmed directive (Bool.eq_false_iff.mpr names)
          (Bool.eq_false_iff.mpr prompts)
      · exact feed_content filled trimmed sound (Bool.eq_false_iff.mpr directive)

end Line

theorem feed_blank (blank : Text.trim raw = []) : reader.feed raw = .ok reader := by
  simp [feed, blank]

theorem feed_trim (reader : Reader) (raw : Text) :
    reader.feed (Text.trim raw) = reader.feed raw := by
  simp [feed]

theorem StepsTo.isSound {line : Line} (steps : reader.StepsTo line next) (sound : reader.IsSound)
    (filled : line.IsFilled) : next.IsSound := by
  have captured {text : Text} (solid : text ≠ []) :
      (reader.draft.setAnswer text).answers = [] ↔ (reader.draft.setAnswer text).rawAnswer = [] :=
    iff_of_false (Answer.interpret_ne_nil _ _ _) solid
  cases steps with
  | namelessKind | stray => exact sound
  | kind | barePrompt | prompt | bareAnswer => exact ⟨by simp, sound.answered⟩
  | answer solid => exact ⟨by simp, captured solid⟩
  | option => exact ⟨by simp [Draft.addOption], sound.answered⟩
  | promptLine _ place | unmarkedPrompt place => exact ⟨by simp [place], sound.answered⟩
  | optionLine =>
    refine ⟨fun index same => ?_, sound.answered⟩
    simpa [Draft.addOptionLine] using sound.option index same
  | answerLine => exact ⟨by simp, captured filled⟩

theorem isSound_run (sound : reader.IsSound) {lines : List Line}
    (filled : ∀ line ∈ lines, line.IsFilled) : (reader.run lines).IsSound :=
  run_of_stepsTo IsSound (fun _ _ _ steps solid sound => steps.isSound sound solid) filled sound

end Reader

def readLines (raws : List Text) : List Line :=
  ((raws.map Text.trim).filter (· ≠ [])).map Line.ofText

theorem isFilled_of_mem_readLines {raws : List Text} {line : Line}
    (member : line ∈ readLines raws) : line.IsFilled := by
  obtain ⟨text, among, rfl⟩ := List.mem_map.mp member
  exact isFilled_ofText (by simpa using (List.mem_filter.mp among).2)

namespace Reader

variable {reader next : Reader} {raw : Text}

theorem feedAll_cons (read : reader.feed raw = .ok next) (rest : List Text) :
    reader.feedAll (raw :: rest) = next.feedAll rest := by
  rw [feedAll, List.foldlM_cons, read]
  rfl

theorem feedAll_eq_run (sound : reader.IsSound) (raws : List Text) :
    reader.feedAll raws = .ok (reader.run (readLines raws)) := by
  induction raws generalizing reader with
  | nil => rfl
  | cons raw rest ih =>
    by_cases blank : Text.trim raw = []
    · rw [feedAll_cons (feed_blank blank), ih sound]
      simp [readLines, blank]
    · have read := feed_filled blank (Text.trim_trim raw) sound
      rw [feed_trim] at read
      have kept := (stepsTo_step reader _).isSound sound (isFilled_ofText blank)
      rw [feedAll_cons read, ih kept]
      simp [readLines, blank, run]

theorem feedAll_never_faults (raws : List Text) :
    (∀ raw, (isKind (Text.trim raw) = true → words kindMarker (Text.trim raw) ≠ []) ∧
      (isDirective (Text.trim raw) = true →
        Text.cutAt? (Text.trim raw) 3 = some (marker, (Text.trim raw).drop 3)) ∧
      (isAnswer (Text.trim raw) = true →
        Text.cutAt? (Text.trim raw) 9 = some ((Text.trim raw).take 9, (Text.trim raw).drop 9))) ∧
    ∃ reader, start.feedAll raws = .ok reader ∧ reader = start.run (readLines raws) ∧
      (∀ index, reader.mode = .inOption index → index + 1 = reader.draft.options.length) ∧
      (reader.draft.answers = [] ↔ reader.draft.rawAnswer = []) ∧
      ∀ more, ∃ later, reader.feedAll more = .ok later ∧ reader.draft.Grows later.draft := by
  have filled (raws : List Text) : ∀ line ∈ readLines raws, line.IsFilled :=
    fun _ member => isFilled_of_mem_readLines member
  have sound := isSound_run isSound_start (filled raws)
  refine ⟨fun raw => ⟨?name, cutAt?_marker, cutAt?_answerMarker⟩, _,
    feedAll_eq_run isSound_start raws, rfl, sound.option, sound.answered, fun more => ?later⟩
  case name => exact fun names => words_kind_ne_nil names (Text.trim_trim raw)
  case later => exact ⟨_, feedAll_eq_run sound more, grows_run (filled more)⟩

-- Behind the keyword, and behind the marker, a character of two bytes follows.
def wideLines : List Text := ["-- ANSWERé", "\t-- Äpfel", "", "ö"]

theorem feedAll_wideLines :
    ∃ reader, start.feedAll wideLines = .ok reader ∧ reader.mode = .inOption 0 ∧
      reader.draft.options.length = 1 ∧
      Text.cutAt? "-- ANSWERé" 9 = some (("-- ANSWER" : Text), ("é" : Text)) ∧
      Text.cutAt? "-- Äpfel" 4 = none := by
  obtain ⟨lines, _, read, rfl, last, _⟩ := feedAll_never_faults wideLines
  have place : (start.run (readLines wideLines)).mode = .inOption 0 := by decide +kernel
  exact ⟨_, read, place, (last 0 place).symm, (lines "-- ANSWERé").2.2 (by decide), by decide⟩

end Reader

end PlainQuiz.Block
