import PlainQuiz.Proofs.Block.Captured
import PlainQuiz.Proofs.Block.Step

set_option autoImplicit false

namespace PlainQuiz

structure Choice.Extends (before after : Choice) : Prop where
  id : after.id = before.id
  text : before.text <+: after.text

theorem Choice.Extends.refl (choice : Choice) : choice.Extends choice :=
  ⟨rfl, List.prefix_refl _⟩

theorem Choice.Extends.trans {first second third : Choice} (earlier : first.Extends second)
    (later : second.Extends third) : first.Extends third :=
  ⟨later.id.trans earlier.id, earlier.text.trans later.text⟩

theorem Text.prefix_addLine (text line : Text) : text <+: addLine text line := by
  unfold addLine
  split_ifs with empty
  · rw [empty]
    exact List.nil_prefix
  · exact List.prefix_append _ _

theorem Text.addLine_ne_nil {line : Text} (filled : line ≠ []) (text : Text) :
    addLine text line ≠ [] := by
  unfold addLine
  split_ifs <;> simp [filled]

namespace Block

structure Draft.Grows (before after : Draft) : Prop where
  options : ∀ (index : Nat) (choice : Choice), before.options[index]? = some choice →
    ∃ later, after.options[index]? = some later ∧ choice.Extends later
  prompted : before.prompt ≠ [] → after.prompt ≠ []
  answered : before.answers ≠ [] → after.answers ≠ []

namespace Draft.Grows

theorem trans {first second third : Draft} (earlier : first.Grows second)
    (later : second.Grows third) : first.Grows third := by
  refine ⟨fun index choice here => ?_, fun prompted => later.prompted (earlier.prompted prompted),
    fun answered => later.answered (earlier.answered answered)⟩
  obtain ⟨next, there, longer⟩ := earlier.options index choice here
  obtain ⟨last, behind, further⟩ := later.options index next there
  exact ⟨last, behind, longer.trans further⟩

variable {draft : Draft} {text : Text}

theorem of_options {after : Draft} (same : after.options = draft.options)
    (prompted : draft.prompt ≠ [] → after.prompt ≠ [])
    (answered : draft.answers ≠ [] → after.answers ≠ []) : draft.Grows after :=
  ⟨fun _ choice here => ⟨choice, same ▸ here, .refl choice⟩, prompted, answered⟩

theorem refl (draft : Draft) : draft.Grows draft := of_options rfl id id

theorem withPrompt (filled : text ≠ []) : draft.Grows { draft with prompt := text } :=
  of_options rfl (fun _ => filled) id

theorem setAnswer (text : Text) : draft.Grows (draft.setAnswer text) :=
  of_options rfl id fun _ => Answer.interpret_ne_nil _ _ _

theorem addOption (id : Text) : draft.Grows (draft.addOption id) := by
  refine ⟨fun index choice here => ⟨choice, ?_, .refl choice⟩, fun kept => kept, fun kept => kept⟩
  obtain ⟨within, -⟩ := List.getElem?_eq_some_iff.mp here
  rw [Draft.addOption, List.getElem?_append_left within, here]

theorem addOptionLine (index : Nat) (text : Text) :
    draft.Grows (draft.addOptionLine index text) := by
  refine ⟨fun place choice here => ?_, fun kept => kept, fun kept => kept⟩
  simp only [Draft.addOptionLine, List.getElem?_modify, here]
  split_ifs
  · exact ⟨_, rfl, rfl, Text.prefix_addLine _ _⟩
  · exact ⟨_, rfl, .refl choice⟩

end Draft.Grows

def Line.IsFilled : Line → Prop
  | .content text => text ≠ []
  | .kind _ | .prompt _ | .answer _ | .option _ => True

theorem isFilled_ofText {line : Text} (filled : line ≠ []) : (Line.ofText line).IsFilled := by
  unfold Line.ofText
  split_ifs
  · trivial
  · trivial
  · trivial
  · trivial
  · exact filled

namespace Reader

variable {reader next : Reader} {line : Line}

theorem StepsTo.grows (steps : reader.StepsTo line next) (filled : line.IsFilled) :
    reader.draft.Grows next.draft := by
  cases steps with
  | namelessKind | barePrompt | bareAnswer | stray => exact .refl _
  | kind => exact .of_options rfl id id
  | prompt solid => exact .withPrompt solid
  | answer | answerLine => exact .setAnswer _
  | option => exact .addOption _
  | promptLine => exact .withPrompt (Text.addLine_ne_nil filled _)
  | optionLine => exact .addOptionLine _ _
  | unmarkedPrompt => exact .withPrompt filled

theorem grows_run {lines : List Line} (filled : ∀ line ∈ lines, line.IsFilled) :
    reader.draft.Grows (reader.run lines).draft :=
  run_of_stepsTo (reader.draft.Grows ·.draft)
    (fun _ _ _ steps solid earlier => earlier.trans (steps.grows solid)) filled (.refl reader.draft)

end Reader

end Block

end PlainQuiz
