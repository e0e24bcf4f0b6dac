import PlainQuiz.Event

set_option autoImplicit false

namespace PlainQuiz.Block

structure Draft where
  kind : Kind
  prompt : Text
  options : List Choice
  answers : List Text
  rawAnswer : Text
  deriving DecidableEq, Repr

namespace Draft

def blank : Draft := ⟨.multipleChoice, [], [], [], []⟩

def addPromptLine (draft : Draft) (line : Text) : Draft :=
  { draft with prompt := Text.addLine draft.prompt line }

def addOption (draft : Draft) (id : Text) : Draft :=
  { draft with options := draft.options ++ [⟨id, []⟩] }

def addOptionLine (draft : Draft) (index : Nat) (line : Text) : Draft :=
  { draft with
    options := draft.options.modify index fun choice =>
      { choice with text := Text.addLine choice.text line } }

-- The kind and the prompt known at this line decide how the answer is read.
def setAnswer (draft : Draft) (text : Text) : Draft :=
  { draft with
    answers := Answer.interpret draft.kind draft.prompt text
    rawAnswer := text }

-- A content line outside any context can only be the prompt of a block that has none yet. A line
-- that starts like a directive cannot.
def takesPrompt (draft : Draft) (line : Text) : Bool :=
  draft.prompt == [] && draft.options == [] && !("--" : Text).isPrefixOf line

-- A block that does not mark its prompt has it as the first option of a multiple choice question,
-- or the only option of a true/false or free text question.
def settlePrompt (draft : Draft) : Draft :=
  match draft.kind, draft.options with
  | .multipleChoice, first :: rest =>
    if draft.prompt = [] then { draft with prompt := first.text, options := rest } else draft
  | .trueFalse, [only] | .freeText, [only] => { draft with prompt := only.text, options := [] }
  | _, _ => draft

def finish (draft : Draft) : Except BlockError Question :=
  let draft := draft.settlePrompt
  if draft.prompt = [] then .error .noPrompt
  else if draft.answers = [] then .error .noAnswer
  else if draft.kind.requiresOptions ∧ draft.options = [] then .error (.noOptions draft.kind)
  else .ok ⟨draft.kind, draft.prompt, draft.options, draft.answers, draft.rawAnswer⟩

end Draft

structure Reader where
  mode : Mode
  draft : Draft
  deriving DecidableEq, Repr

namespace Reader

def start : Reader := ⟨.idle, .blank⟩

def step (reader : Reader) : Line → Reader
  | .kind tag =>
    if tag = [] then reader else ⟨.idle, { reader.draft with kind := Kind.ofTag tag }⟩
  | .prompt text =>
    if text = [] then { reader with mode := .inPrompt }
    else ⟨.idle, { reader.draft with prompt := text }⟩
  | .answer text =>
    if text = [] then { reader with mode := .inAnswer } else ⟨.idle, reader.draft.setAnswer text⟩
  | .option id => ⟨.inOption reader.draft.options.length, reader.draft.addOption id⟩
  | .content text =>
    match reader.mode with
    | .inPrompt => { reader with draft := reader.draft.addPromptLine text }
    | .inOption index => { reader with draft := reader.draft.addOptionLine index text }
    | .inAnswer => ⟨.idle, reader.draft.setAnswer text⟩
    | .idle =>
      if reader.draft.takesPrompt text then
        { reader with draft := { reader.draft with prompt := text } }
      else reader

-- Only a real change of mode is reported.
def move (before after : Mode) : List Event :=
  if before = after then [] else [.moved before after]

def stepEvents (reader : Reader) : Line → List Event
  | .kind tag => if tag = [] then [] else Kind.ofTagEvents tag ++ move reader.mode .idle
  | .prompt text => move reader.mode (if text = [] then .inPrompt else .idle)
  | .answer text =>
    let between := reader.mode.atDirective
    move reader.mode between ++
      if text = [] then move between .inAnswer
      else Answer.interpretEvents reader.draft.kind text ++ move between .idle
  | .option _ =>
    let between := reader.mode.atDirective
    move reader.mode between ++ move between (.inOption reader.draft.options.length)
  | .content text =>
    match reader.mode with
    | .inPrompt | .inOption _ => []
    | .inAnswer => Answer.interpretEvents reader.draft.kind text ++ move .inAnswer .idle
    | .idle => if reader.draft.takesPrompt text then [] else [.strayLine text]

def run (reader : Reader) (lines : List Line) : Reader := lines.foldl step reader

def runEvents : Reader → List Line → List Event
  | _, [] => []
  | reader, line :: rest => reader.stepEvents line ++ runEvents (reader.step line) rest

end Reader

def lines (source : Text) : List Line := (contentLines source).map Line.ofText

def draft (source : Text) : Draft := (Reader.start.run (lines source)).draft

end Block

open Block

namespace Question

def ofBlock (source : Text) : Except BlockError Question :=
  if Text.trim source = [] then .error .empty else (Block.draft source).finish

def ofBlockEvents (source : Text) : List Event :=
  if Text.trim source = [] then [] else Reader.start.runEvents (Block.lines source)

end Question

end PlainQuiz
