import PlainQuiz.Proofs.Block.Feed
import PlainQuiz.Proofs.Block.Layout

set_option autoImplicit false

namespace PlainQuiz

namespace Block

structure Move where
  before : Mode
  after : Mode
  deriving DecidableEq, Repr

inductive Route : Mode → List Move → Mode → Prop
  | nil (mode : Mode) : Route mode [] mode
  | cons {before after last : Mode} {moves : List Move} (real : before ≠ after)
      (later : Route after moves last) : Route before (⟨before, after⟩ :: moves) last

theorem Route.append {first middle last : Mode} {moves more : List Move}
    (earlier : Route first moves middle) (later : Route middle more last) :
    Route first (moves ++ more) last := by
  induction earlier with
  | nil => exact later
  | cons real _ ih => exact .cons real (ih later)

def Mode.option? : Mode → Option Nat
  | inOption index => some index
  | idle | inPrompt | inAnswer => none

def optionsEntered (moves : List Move) : List Nat := moves.filterMap (·.after.option?)

def Line.declares : Line → Bool
  | option _ => true
  | kind _ | prompt _ | answer _ | content _ => false

def Line.departure (mode : Mode) : Line → Mode
  | answer _ | option _ => mode.atDirective
  | kind _ | prompt _ | content _ => mode

end Block

open Block

def Event.move? : Event → Option Move
  | moved before after => some ⟨before, after⟩
  | strayLine _ | unknownKind _ | unknownTruth _ | graded _ _ | blockFailed _ _ _
  | fileSkipped _ => none

def Event.moves (events : List Event) : List Move := events.filterMap move?

def Question.moves (source : Text) : List Move := Event.moves (ofBlockEvents source)

-- The moves of the first lines of a block, whatever comes below them.
def Block.Reading.moves (lines : List Text) : List Move :=
  Event.moves (Reader.start.runEvents (lines.map Line.ofText))

namespace Event

@[simp] theorem moves_append (events more : List Event) :
    moves (events ++ more) = moves events ++ moves more :=
  List.filterMap_append

@[simp] theorem moves_ofTagEvents (tag : Text) : moves (Kind.ofTagEvents tag) = [] := by
  unfold Kind.ofTagEvents
  split <;> rfl

@[simp] theorem moves_interpretEvents (kind : Kind) (text : Text) :
    moves (Answer.interpretEvents kind text) = [] := by
  unfold Answer.interpretEvents Answer.truthEvents
  split_ifs <;> rfl

end Event

namespace Block

def Mode.shift (before after : Mode) : List Move :=
  if before = after then [] else [⟨before, after⟩]

namespace Mode

@[simp] theorem shift_self (mode : Mode) : mode.shift mode = [] := if_pos rfl

theorem mem_shift_iff {before after : Mode} {move : Move} :
    move ∈ before.shift after ↔ before ≠ after ∧ move = ⟨before, after⟩ := by
  unfold shift
  split_ifs with same <;> simp [same]

theorem route_shift (before after : Mode) : Route before (before.shift after) after := by
  unfold shift
  split_ifs with same
  · exact same ▸ .nil before
  · exact .cons same (.nil after)

theorem optionsEntered_shift {before after : Mode} (plain : after.option? = none) :
    optionsEntered (before.shift after) = [] := by
  unfold shift optionsEntered
  split_ifs <;> simp [plain]

theorem optionsEntered_shift_self (mode : Mode) : optionsEntered (mode.shift mode) = [] := by
  rw [shift_self]
  rfl

theorem optionsEntered_shift_inOption {before : Mode} {index : Nat}
    (real : before ≠ .inOption index) :
    optionsEntered (before.shift (.inOption index)) = [index] := by
  rw [shift, if_neg real]
  rfl

theorem atDirective_eq_inOption_iff {mode : Mode} {index : Nat} :
    mode.atDirective = .inOption index ↔ mode = .inOption index := by
  cases mode <;> simp [atDirective]

theorem atDirective_ne_inPrompt (mode : Mode) : mode.atDirective ≠ .inPrompt := by
  cases mode <;> simp [atDirective]

end Mode

theorem Line.departure_eq_or (line : Line) (mode : Mode) :
    line.departure mode = mode ∨ line.departure mode = .idle := by
  cases line with
  | answer | option => cases mode <;> simp [departure, Mode.atDirective]
  | kind | prompt | content => exact .inl rfl

theorem optionsEntered_departure (line : Line) (mode : Mode) :
    optionsEntered (mode.shift (line.departure mode)) = [] := by
  rcases line.departure_eq_or mode with still | idle
  · rw [still, Mode.optionsEntered_shift_self]
  · rw [idle, Mode.optionsEntered_shift rfl]

theorem optionsEntered_append (moves more : List Move) :
    optionsEntered (moves ++ more) = optionsEntered moves ++ optionsEntered more :=
  List.filterMap_append

namespace Reader

variable {reader : Reader} {lines : List Line}

@[simp] theorem moves_move (before after : Mode) :
    Event.moves (move before after) = before.shift after := by
  unfold move Mode.shift
  split_ifs <;> rfl

theorem moves_stepEvents (reader : Reader) (line : Line) :
    Event.moves (reader.stepEvents line) =
      reader.mode.shift (line.departure reader.mode) ++
        (line.departure reader.mode).shift (reader.step line).mode := by
  cases line with
  | kind tag =>
    simp only [stepEvents, step, Line.departure]
    split_ifs
    · simp [Event.moves]
    · simp
  | prompt text =>
    simp only [stepEvents, step, Line.departure]
    split_ifs <;> simp
  | answer text =>
    simp only [stepEvents, step, Line.departure]
    split_ifs <;> simp
  | option id => simp [stepEvents, step, Line.departure]
  | content text =>
    obtain ⟨mode, draft⟩ := reader
    simp only [stepEvents, step, Line.departure]
    cases mode with
    | idle => split_ifs <;> simp [Event.moves, Event.move?]
    | inPrompt | inOption _ => simp [Event.moves]
    | inAnswer => simp

theorem route_step (reader : Reader) (line : Line) :
    Route reader.mode (Event.moves (reader.stepEvents line)) (reader.step line).mode := by
  rw [moves_stepEvents]
  exact (Mode.route_shift _ _).append (Mode.route_shift _ _)

theorem route_run (reader : Reader) (lines : List Line) :
    Route reader.mode (Event.moves (reader.runEvents lines)) (reader.run lines).mode := by
  induction lines generalizing reader with
  | nil => exact .nil reader.mode
  | cons line rest ih =>
    rw [runEvents, Event.moves_append]
    exact (reader.route_step line).append (ih (reader.step line))

theorem mode_of_open_prompt {line : Line} {next : Reader} (steps : reader.StepsTo line next)
    (unclosed : line.departure reader.mode = .inPrompt) :
    next.mode = .inPrompt ∨ next.mode = .idle := by
  cases steps with
  | namelessKind | stray | unmarkedPrompt | promptLine | optionLine => exact .inl unclosed
  | barePrompt => exact .inl rfl
  | kind | prompt | answer | answerLine => exact .inr rfl
  | bareAnswer | option => exact absurd unclosed (Mode.atDirective_ne_inPrompt _)

theorem after_of_inPrompt_step {line : Line} {move : Move}
    (member : move ∈ Event.moves (reader.stepEvents line)) (leaves : move.before = .inPrompt) :
    move.after = .idle := by
  rw [moves_stepEvents, List.mem_append, Mode.mem_shift_iff, Mode.mem_shift_iff] at member
  rcases member with ⟨real, rfl⟩ | ⟨real, rfl⟩
  · exact (Line.departure_eq_or line reader.mode).resolve_left (Ne.symm real)
  · rcases mode_of_open_prompt (reader.stepsTo_step line) leaves with still | idle
    · exact absurd (leaves.trans still.symm) real
    · exact idle

theorem after_of_inPrompt_run {move : Move}
    (member : move ∈ Event.moves (reader.runEvents lines)) (leaves : move.before = .inPrompt) :
    move.after = .idle := by
  induction lines generalizing reader with
  | nil => contradiction
  | cons line rest ih =>
    rw [runEvents, Event.moves_append, List.mem_append] at member
    rcases member with here | later
    · exact after_of_inPrompt_step here leaves
    · exact ih later

theorem length_options_step (reader : Reader) (line : Line) :
    (reader.step line).draft.options.length =
      reader.draft.options.length + if line.declares then 1 else 0 := by
  have steps := reader.stepsTo_step line
  generalize reader.step line = next at steps
  cases steps <;>
    simp [Line.declares, Draft.setAnswer, Draft.addOption, Draft.addPromptLine, Draft.addOptionLine]

theorem optionsEntered_step (sound : reader.IsSound) (line : Line) :
    optionsEntered (Event.moves (reader.stepEvents line)) =
      if line.declares then [reader.draft.options.length] else [] := by
  have steps := reader.stepsTo_step line
  rw [moves_stepEvents, optionsEntered_append, optionsEntered_departure, List.nil_append]
  generalize reader.step line = next at steps
  cases steps with
  | namelessKind | stray | unmarkedPrompt | promptLine | optionLine =>
    exact Mode.optionsEntered_shift_self reader.mode
  | kind | barePrompt | prompt | bareAnswer | answer | answerLine =>
    exact Mode.optionsEntered_shift rfl
  | option id =>
    refine Mode.optionsEntered_shift_inOption fun same => ?_
    have last := sound.option _ (Mode.atDirective_eq_inOption_iff.mp same)
    omega

theorem optionsEntered_run (sound : reader.IsSound) (filled : ∀ line ∈ lines, line.IsFilled) :
    optionsEntered (Event.moves (reader.runEvents lines)) =
      List.range' reader.draft.options.length (lines.countP Line.declares) := by
  induction lines generalizing reader with
  | nil => rfl
  | cons line rest ih =>
    obtain ⟨solid, later⟩ := List.forall_mem_cons.mp filled
    have next := ih ((reader.stepsTo_step line).isSound sound solid) later
    rw [runEvents, Event.moves_append, optionsEntered_append, optionsEntered_step sound, next,
      length_options_step]
    by_cases declares : line.declares = true
    · simp [declares, List.range'_succ]
    · simp [declares]

theorem runEvents_append (reader : Reader) (lines more : List Line) :
    reader.runEvents (lines ++ more) =
      reader.runEvents lines ++ (reader.run lines).runEvents more := by
  induction lines generalizing reader with
  | nil => rfl
  | cons line rest ih =>
    rw [List.cons_append, runEvents, ih, runEvents, List.append_assoc]
    rfl

end Reader

theorem declares_ofText (line : Text) : (Line.ofText line).declares = isOption line := by
  unfold Line.ofText isOption isKind isPrompt
  cases kind : kindMarker.isPrefixOf line <;> cases prompt : promptMarker.isPrefixOf line <;>
    cases directive : isDirective line <;> cases answer : isAnswer line <;> rfl

namespace Reading

variable {above : List Text} {line text : Text}

theorem moves_append (above below : List Text) :
    moves (above ++ below) =
      moves above ++
        Event.moves ((Reader.start.run (above.map Line.ofText)).runEvents
          (below.map Line.ofText)) := by
  rw [moves, List.map_append, Reader.runEvents_append, Event.moves_append]
  rfl

theorem moves_prefix (above below : List Text) : moves above <+: moves (above ++ below) :=
  ⟨_, (moves_append above below).symm⟩

theorem moves_concat_answer (clean : ∀ line ∈ above, line ≠ [] ∧ Text.trim line = line)
    (content : isDirective line = false) (captures : Captures above line text) :
    moves (above ++ [line]) = moves above ++ [⟨.inAnswer, .idle⟩] := by
  have owned : owner above = .inAnswer := by
    cases captures with
    | inline answers => simp [isDirective_of_isAnswer answers] at content
    | below follows answers => exact owner_eq_inAnswer_iff.mpr ⟨_, _, follows, answers⟩
  rw [moves_append, run_eq_reader clean, List.map_singleton, ofText_content content,
    Reader.runEvents, Reader.runEvents, List.append_nil, Reader.moves_stepEvents]
  simp only [reader, owned, Reader.step, Line.departure]
  rfl

end Reading

end Block

open Reading

namespace Question

theorem moves_eq (source : Text) : moves source = Reading.moves (contentLines source) := by
  unfold moves ofBlockEvents
  split_ifs with blank
  · rw [contentLines_eq_nil_iff.mpr blank]
    rfl
  · rfl

/-- The moves of a block are a route from the idle mode to the mode that its lines end in. Options
are entered in order, each once, and the content line that is taken as the answer reports the move
that ends it. -/
theorem moves_form_route (source : Text) :
    Route .idle (moves source) (owner (contentLines source)) ∧
    (∀ move ∈ moves source, move.before = .inPrompt → move.after = .idle) ∧
    optionsEntered (moves source) = List.range ((contentLines source).countP isOption) ∧
    ∀ above line below text, contentLines source = above ++ line :: below →
      isDirective line = false → Captures above line text →
      Reading.moves (above ++ [line]) = Reading.moves above ++ [⟨.inAnswer, .idle⟩] ∧
        Reading.moves (above ++ [line]) <+: moves source := by
  have filled : ∀ line ∈ Block.lines source, line.IsFilled :=
    fun line member => @isFilled_of_mem_readLines (Text.lines source) line member
  rw [moves_eq]
  refine ⟨?route, fun move => Reader.after_of_inPrompt_run, ?options, ?answer⟩
  case route =>
    have route := Reader.start.route_run (Block.lines source)
    rw [run_lines] at route
    exact route
  case options =>
    have entered := Reader.optionsEntered_run Reader.isSound_start filled
    have counted : (Block.lines source).countP Line.declares =
        (contentLines source).countP isOption := by
      rw [Block.lines, List.countP_map]
      exact List.countP_congr fun line _ => by simp [declares_ofText]
    rw [counted] at entered
    rw [List.range_eq_range']
    exact entered
  case answer =>
    intro above line below text whole content captures
    have clean : ∀ line ∈ above, line ≠ [] ∧ Text.trim line = line := by
      intro next member
      have among : next ∈ contentLines source := by simp [whole, member]
      exact ⟨ne_nil_of_mem_contentLines among, trim_of_mem_contentLines among⟩
    have first := moves_prefix (above ++ [line]) below
    rw [List.append_assoc, List.singleton_append, ← whole] at first
    exact ⟨moves_concat_answer clean content captures, first⟩

-- A prompt over two lines, options with and without text, and an answer that is cut off.
def detour : Text :=
  "-- Question\nWhich\none?\n-- Question\n-- A\n-- B\nyes\n-- Answer\n-- C\n-- Answer\nB"

def aboveDetour : List Text :=
  ["-- Question", "Which", "one?", "-- Question", "-- A", "-- B", "yes", "-- Answer", "-- C",
    "-- Answer"]

def detourMoves : List Move :=
  [⟨.idle, .inPrompt⟩, ⟨.inPrompt, .idle⟩, ⟨.idle, .inOption 0⟩, ⟨.inOption 0, .inOption 1⟩,
    ⟨.inOption 1, .inAnswer⟩, ⟨.inAnswer, .inOption 2⟩, ⟨.inOption 2, .inAnswer⟩,
    ⟨.inAnswer, .idle⟩]

theorem moves_form_route_detour :
    moves detour = detourMoves ∧ Route .idle detourMoves .idle ∧
      optionsEntered detourMoves = [0, 1, 2] ∧
      contentLines detour = aboveDetour ++ [("B" : Text)] ∧ Captures aboveDetour "B" "B" ∧
      Reading.moves (aboveDetour ++ [("B" : Text)]) =
        Reading.moves aboveDetour ++ [⟨.inAnswer, .idle⟩] := by
  have reported : moves detour = detourMoves := by decide +kernel
  have whole : contentLines detour = aboveDetour ++ [("B" : Text)] := by decide
  have captures : Captures aboveDetour "B" "B" := answer?_eq_some_iff.mp (by decide)
  obtain ⟨route, -, entered, answers⟩ := moves_form_route detour
  have ended : owner (contentLines detour) = .idle := by decide
  have counted : (contentLines detour).countP isOption = 3 := by decide
  rw [reported, ended] at route
  rw [reported, counted] at entered
  exact ⟨reported, route, entered, whole, captures, (answers _ _ _ _ whole rfl captures).1⟩

end Question

end PlainQuiz
