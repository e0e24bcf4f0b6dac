import PlainQuiz.Block.Reader

set_option autoImplicit false

namespace PlainQuiz.Block.Reader

inductive StepsTo (reader : Reader) : Line → Reader → Prop
  | namelessKind : StepsTo reader (.kind []) reader
  | kind {tag : Text} (named : tag ≠ []) :
      StepsTo reader (.kind tag) ⟨.idle, { reader.draft with kind := Kind.ofTag tag }⟩
  | barePrompt : StepsTo reader (.prompt []) { reader with mode := .inPrompt }
  | prompt {text : Text} (filled : text ≠ []) :
      StepsTo reader (.prompt text) ⟨.idle, { reader.draft with prompt := text }⟩
  | bareAnswer : StepsTo reader (.answer []) { reader with mode := .inAnswer }
  | answer {text : Text} (filled : text ≠ []) :
      StepsTo reader (.answer text) ⟨.idle, reader.draft.setAnswer text⟩
  | option (id : Text) :
      StepsTo reader (.option id)
        ⟨.inOption reader.draft.options.length, reader.draft.addOption id⟩
  | promptLine (text : Text) (place : reader.mode = .inPrompt) :
      StepsTo reader (.content text) { reader with draft := reader.draft.addPromptLine text }
  | optionLine (text : Text) {index : Nat} (place : reader.mode = .inOption index) :
      StepsTo reader (.content text) { reader with draft := reader.draft.addOptionLine index text }
  | answerLine (text : Text) (place : reader.mode = .inAnswer) :
      StepsTo reader (.content text) ⟨.idle, reader.draft.setAnswer text⟩
  | unmarkedPrompt {text : Text} (place : reader.mode = .idle)
      (taken : reader.draft.takesPrompt text = true) :
      StepsTo reader (.content text) { reader with draft := { reader.draft with prompt := text } }
  | stray {text : Text} (place : reader.mode = .idle)
      (refused : reader.draft.takesPrompt text = false) : StepsTo reader (.content text) reader

theorem stepsTo_step (reader : Reader) (line : Line) : reader.StepsTo line (reader.step line) := by
  cases line with
  | kind tag =>
    rw [step]
    split
    next bare => exact bare ▸ .namelessKind
    next named => exact .kind named
  | prompt text =>
    rw [step]
    split
    next bare => exact bare ▸ .barePrompt
    next filled => exact .prompt filled
  | answer text =>
    rw [step]
    split
    next bare => exact bare ▸ .bareAnswer
    next filled => exact .answer filled
  | option id => exact .option id
  | content text =>
    rw [step]
    split
    next place => exact .promptLine text place
    next place => exact .optionLine text place
    next place => exact .answerLine text place
    next place =>
      split
      next taken => exact .unmarkedPrompt place taken
      next refused => exact .stray place (Bool.eq_false_iff.mpr refused)

theorem run_of_stepsTo (Holds : Reader → Prop) {Allows : Line → Prop}
    (kept : ∀ reader line next, reader.StepsTo line next → Allows line → Holds reader → Holds next)
    {reader : Reader} {lines : List Line} (allowed : ∀ line ∈ lines, Allows line)
    (held : Holds reader) : Holds (reader.run lines) := by
  induction lines generalizing reader with
  | nil => exact held
  | cons line rest ih =>
    obtain ⟨here, later⟩ := List.forall_mem_cons.mp allowed
    exact ih later (kept reader line _ (stepsTo_step reader line) here held)

end PlainQuiz.Block.Reader
