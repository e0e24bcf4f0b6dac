import PlainQuiz.Json
import PlainQuiz.Program.Basic
import PlainQuiz.Proofs.Review
import PlainQuiz.Proofs.Terminal.Session
import PlainQuiz.Table
import PlainQuiz.Toml.Document

set_option autoImplicit false

namespace PlainQuiz

namespace Document

variable {document : Document}

structure IsClean (document : Document) : Prop where
  errors : document.errors = []
  warnings : document.warnings = []

theorem IsClean.gradable_block (clean : document.IsClean) {block : Block}
    (member : block ∈ document.blocks) :
    ∃ question, block.result = .ok question ∧ ¬ question.IsShort := by
  have readable : block.error? = none := List.filterMap_eq_nil_iff.mp clean.errors block member
  have unwarned : block.warnings = [] := List.flatMap_eq_nil_iff.mp clean.warnings block member
  cases result : block.result with
  | error error => simp [Block.error?, result] at readable
  | ok question =>
    have quiet : question.warnings = [] := by simpa [Block.warnings, result] using unwarned
    exact ⟨question, rfl, Question.not_isShort_of_warnings quiet⟩

theorem IsClean.gradable (clean : document.IsClean) {question : Question}
    (member : question ∈ document.questions) : ¬ question.IsShort := by
  obtain ⟨block, among, asked⟩ := List.mem_filterMap.mp member
  obtain ⟨read, result, enough⟩ := clean.gradable_block among
  obtain rfl : read = question := by simpa [Block.question?, result] using asked
  exact enough

end Document

namespace Program

open Result (line)

section Validation

variable {files : Files} {quiz : Path}

theorem validate_strict_exitCode_iff :
    (validate files quiz true).exitCode = 0 ↔
      ∃ loaded, files.load quiz = .ok loaded ∧ ∀ document ∈ loaded.documents, document.IsClean := by
  unfold validate
  cases files.load quiz with
  | error error => simp [Result.failure]
  | ok loaded =>
    have clean : (∀ document ∈ loaded.documents, document.IsClean) ↔
        loaded.documents.flatMap (·.errors) = [] ∧ loaded.documents.flatMap (·.warnings) = [] := by
      simp only [List.flatMap_eq_nil_iff]
      exact ⟨fun each => ⟨fun _ member => (each _ member).errors,
          fun _ member => (each _ member).warnings⟩,
        fun ⟨errors, warnings⟩ _ member => ⟨errors _ member, warnings _ member⟩⟩
    simp only [Except.ok.injEq, exists_eq_left', clean, ← List.length_eq_zero_iff]
    generalize (loaded.documents.flatMap (·.errors)).length = errors
    generalize (loaded.documents.flatMap (·.warnings)).length = warnings
    by_cases failing : errors = 0
    · by_cases warned : warnings = 0 <;> simp [failing, warned, Result.failure, Result.success]
    · simp [failing, Result.failure]

theorem isClean_of_validate (file : files.directory? quiz = none)
    (valid : (validate files quiz true).exitCode = 0) :
    ∃ document, files.document quiz = .ok document ∧ document.IsClean := by
  obtain ⟨loaded, found, clean⟩ := validate_strict_exitCode_iff.mp valid
  simp only [Files.load, file, Files.loadFile] at found
  unfold Files.document
  cases content : files.quizText quiz with
  | error error => simp [content, Except.map] at found
  | ok text =>
    obtain rfl : Files.Loaded.ofText quiz text = loaded := by
      simpa [content, Except.map] using found
    exact ⟨Document.ofText quiz text, rfl, clean _ List.mem_cons_self⟩

end Validation

inductive Checked (question : Question) (labels : Labels) (reply : Text) (mustBeCorrect : Bool) :
    Result → Prop
  | correct : Checked question labels reply mustBeCorrect (.success (line labels.correct))
  | incorrect : Checked question labels reply mustBeCorrect
      { Result.success (line (labels.incorrect ++ " " ++ labels.solution question)) with
        exitCode := if mustBeCorrect then 1 else 0 }
  | incomplete : Checked question labels reply mustBeCorrect
      { Result.success (line labels.incomplete) with exitCode := if mustBeCorrect then 1 else 0 }
  | unrecognized (kind : question.kind = .trueFalse) : Checked question labels reply mustBeCorrect
      (.failure [] (ReplyError.message ⟨Text.trim reply⟩))

variable {Generator : Type} {world : World Generator} {quiz : Path} {settings : Settings}
  {path : Option Path} {document : Document} {questions : List Question}

theorem gradeReply_checked {question : Question} (enough : ¬ question.IsShort) (labels : Labels)
    (reply : Text) (mustBeCorrect : Bool) :
    Checked question labels reply mustBeCorrect
      (gradeReply question labels reply mustBeCorrect) := by
  unfold gradeReply
  cases read : question.response labels reply with
  | error error =>
    obtain ⟨kind, rfl⟩ := Question.error_of_response read
    exact .unrecognized kind
  | ok response =>
    dsimp only
    rcases labels.verdict_cases question response with
      correct | incorrect | incomplete | misconfigured
    · simp only [correct, bne_self_eq_false, Bool.and_false, Bool.false_eq_true, if_false]
      exact .correct
    · have other : (some Outcome.incorrect != some .correct) = true := rfl
      simp only [incorrect, other, Bool.and_true]
      exact .incorrect
    · have other : (none != some Outcome.correct) = true := rfl
      simp only [incomplete, other, Bool.and_true]
      exact .incomplete
    · exact absurd (Question.isShort_of_misconfigured (Question.response_suits read) misconfigured)
        enough

theorem documentAt_of_document (read : world.files.document quiz = .ok document) :
    documentAt world.files quiz = .ok document := by
  rw [documentAt, read, Except.mapError]

theorem check_eq_gradeReply (configured : world.settings path = .ok settings)
    (read : world.files.document quiz = .ok document) {block : Nat} (positive : 0 < block)
    {parsed : Document.Block} (here : document.blocks[block - 1]? = some parsed)
    {question : Question} (result : parsed.result = .ok question) (reply : Text)
    (mustBeCorrect : Bool) :
    check world quiz block reply mustBeCorrect path =
      gradeReply question settings.labels reply mustBeCorrect := by
  have found : (documentAt world.files quiz).bind (questionToCheck · quiz block) =
      .ok question := by
    simp [documentAt_of_document read, Except.bind, questionToCheck, here, result]
  unfold check
  rw [if_neg (Nat.ne_of_gt positive), configured, found]

def finalCard (world : World Generator) (settings : Settings) (questions : List Question) :
    Scorecard :=
  ((world.session settings).quiz settings 1 questions.length questions).card

theorem misconfigured_finalCard (gradable : ∀ question ∈ questions, ¬ question.IsShort) :
    (finalCard world settings questions).misconfigured = 0 := by
  have found := (world.session settings).misconfigured_quiz_le settings 1 questions.length
    questions
  have unfound : questions.countP (·.IsShort) = 0 := by simpa [List.countP_eq_zero] using gradable
  rw [unfound] at found
  exact Nat.le_zero.mp found

def Scored (draw : Table → Text) (card : Scorecard) (result : Result) : Prop :=
  result.closing = if result.exitCode = 0 then line (draw card.table) else []

theorem takeQuiz_scored (world : World Generator) (settings : Settings)
    (questions : List Question) :
    Scored world.tools.draw (finalCard world settings questions)
      (takeQuiz world settings questions) := by
  unfold takeQuiz
  dsimp only
  split
  next => rfl
  next => rfl

theorem run_scored (configured : world.settings path = .ok settings)
    (read : world.files.document quiz = .ok document) (seed : Option Nat) :
    Scored world.tools.draw
      (finalCard world { settings with seed := seed.or settings.seed } document.questions)
      (run world quiz seed path) := by
  unfold run
  rw [configured, documentAt_of_document read]
  dsimp only
  split
  next => rfl
  next => exact takeQuiz_scored world _ _

/-- Too few answers are warned of exactly when some reply cannot be graded for want of them, and
replies have no other way to be ungradable. What strict validation lets through is therefore
gradable by a check of any block and over a whole session. -/
theorem validation_foretells_grading :
    (∀ (question : Question) (labels : Labels),
      (∃ answers blanks, Warning.tooFewAnswers answers blanks ∈ question.warnings) ↔
        question.IsUngradable labels) ∧
    (∀ (question : Question) (labels : Labels) (response : Response),
      (∃ line, question.response labels line = .ok response) ∨
        (∃ chips input, (question.attempt labels chips input).ending = .done response) →
      ∀ kind shape, question.grade response ≠ .error (.wrongShape kind shape)) ∧
    ∀ {Generator : Type} (world : World Generator) (quiz : Path),
      world.files.directory? quiz = none →
      (validate world.files quiz true).exitCode = 0 →
      ∃ document, world.files.document quiz = .ok document ∧
        ∀ path settings, world.settings path = .ok settings →
          (∀ block reply mustBeCorrect, 0 < block → block ≤ document.blocks.length →
            ∃ parsed question, document.blocks[block - 1]? = some parsed ∧
              parsed.result = .ok question ∧
              Checked question settings.labels reply mustBeCorrect
                (check world quiz block reply mustBeCorrect path)) ∧
          ∀ seed,
            let card := finalCard world { settings with seed := seed.or settings.seed }
              document.questions
            card.misconfigured = 0 ∧
              Scored world.tools.draw card (run world quiz seed path) := by
  refine ⟨?warned, ?shaped, ?strict⟩
  case warned =>
    intro question labels
    rw [Question.exists_tooFewAnswers_iff, Question.isUngradable_iff]
  case shaped =>
    intro question labels response collected kind shape failed
    have suits : response.Suits question.kind := by
      rcases collected with ⟨line, read⟩ | ⟨chips, input, done⟩
      · exact Question.response_suits read
      · exact Question.attempt_suits done
    rcases Question.error_of_suits suits (Question.grade_eq_error_iff.mp failed) with
      incomplete | ⟨_, same⟩
    · simp [GradeError.isIncomplete] at incomplete
    · cases same
  case strict =>
    intro Generator world quiz file valid
    obtain ⟨document, read, clean⟩ := isClean_of_validate file valid
    refine ⟨document, read, fun path settings configured => ⟨?_, fun seed => ⟨?_, ?_⟩⟩⟩
    · intro block reply mustBeCorrect positive within
      have here := List.getElem?_eq_getElem (Nat.sub_one_lt_of_le positive within)
      obtain ⟨question, result, enough⟩ := clean.gradable_block (List.mem_of_getElem? here)
      refine ⟨_, question, here, result, ?_⟩
      rw [check_eq_gradeReply configured read positive here result]
      exact gradeReply_checked enough settings.labels reply mustBeCorrect
    · exact misconfigured_finalCard fun question => clean.gradable
    · exact run_scored configured read seed

def addition : Question := ⟨.fillBlank, "[blank] + [blank]", [], [("1" : Text), "3"], "1, 3"⟩

-- Chips stay as they are, which is right where the settings do not ask for a shuffle.
def plainTools : Tools Unit where
  shuffler := ⟨fun _ => (), Prod.mk, fun items _ => .refl items⟩
  readToml? := Toml.Value.ofDocument?
  draw := Table.draw
  print := Json.pretty

def plainSettings : Settings := { Settings.standard with shuffleChips := false }

def plainSettingsFile : Path.Name × FileTree :=
  (Settings.localPath, .file "shuffle_blank_choices = false\n".toUTF8)

-- The quiz is taken by someone who leaves a blank empty and then swaps the two answers.
def swapping : World Unit :=
  ⟨⟨.directory [plainSettingsFile,
      ("q", .file "-- Type fb\n-- Question [blank] + [blank]\n-- Answer 1, 3".toUTF8)], []⟩,
    ⟨none, none⟩, (["1", "", "3", "1"] : List String).map (some ↑·), plainTools, ()⟩

theorem validation_foretells_swapping :
    addition.response .standard "3 | 1" = .ok (.blanks [("3" : Text), "1"]) ∧
      (∀ kind shape,
        addition.grade (.blanks [("3" : Text), "1"]) ≠ .error (.wrongShape kind shape)) ∧
      swapping.files.directory? "q" = none ∧ (validate swapping.files "q" true).exitCode = 0 ∧
      Checked addition .standard "3 | 1" false (check swapping "q" 1 "3 | 1" false none) ∧
      swapping.settings none = .ok plainSettings ∧
      (finalCard swapping plainSettings [addition]).misconfigured = 0 ∧
      Scored Table.draw (finalCard swapping plainSettings [addition])
        (run swapping "q" none none) := by
  have collected : addition.response .standard "3 | 1" = .ok (.blanks [("3" : Text), "1"]) := by
    decide +kernel
  have file : swapping.files.directory? "q" = none := by decide +kernel
  have valid : (validate swapping.files "q" true).exitCode = 0 := by decide +kernel
  have configured : swapping.settings none = .ok plainSettings := by decide +kernel
  have single : (swapping.files.document "q").map (·.questions) = .ok [addition] := by
    decide +kernel
  obtain ⟨_, shaped, strict⟩ := validation_foretells_grading
  obtain ⟨document, read, gradable⟩ := strict swapping "q" file valid
  obtain ⟨checked, taken⟩ := gradable none plainSettings configured
  have questions : document.questions = [addition] := by
    rw [read] at single
    exact Except.ok.inj single
  have blocks : 1 ≤ document.blocks.length := by
    have fewer : document.questions.length ≤ document.blocks.length := List.length_filterMap_le _ _
    rwa [questions] at fewer
  obtain ⟨parsed, question, here, result, shown⟩ := checked 1 "3 | 1" false Nat.one_pos blocks
  have asked : question ∈ document.questions :=
    List.mem_filterMap.mpr
      ⟨parsed, List.mem_of_getElem? here, by rw [Document.Block.question?, result]⟩
  obtain rfl : question = addition := by simpa [questions] using asked
  have finished := taken none
  rw [questions] at finished
  exact ⟨collected, shaped addition .standard _ (.inl ⟨_, collected⟩), file, valid, shown,
    configured, finished⟩

end Program

end PlainQuiz
