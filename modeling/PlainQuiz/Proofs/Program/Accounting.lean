import PlainQuiz.Proofs.Program.Strict
import PlainQuiz.Proofs.Text.Utf8

set_option autoImplicit false

namespace PlainQuiz

namespace Session

def askAll {Generator : Type} (session : Session Generator) (settings : Settings)
    (number total : Nat) : List Question → Session Generator
  | [] => session
  | question :: rest =>
    (session.ask settings number total question).1.askAll settings (number + 1) total rest

variable {Generator : Type} (session : Session Generator) (settings : Settings)
  (number total : Nat)

theorem askAll_append (before after : List Question) :
    session.askAll settings number total (before ++ after) =
      (session.askAll settings number total before).askAll settings (number + before.length) total
        after := by
  induction before generalizing session number with
  | nil => rfl
  | cons question before ih =>
    rw [List.cons_append, askAll, ih, askAll, List.length_cons, Nat.add_assoc, Nat.add_comm 1]

theorem ask_spends (question : Question) :
    (session.ask settings number total question).2.Spends session.input :=
  question.present_spends settings.labels number total _ session.input

theorem card_ask (question : Question) :
    (session.ask settings number total question).1.card =
      recordEnding session.card (session.ask settings number total question).2.ending := rfl

section Exhausted

variable {session} (exhausted : session.input = [])

include exhausted

theorem ending_ask_of_exhausted (question : Question) :
    (session.ask settings number total question).2.ending = .exhausted := by
  simp only [ask, exhausted]
  exact question.present_nil settings.labels number total _

theorem card_askAll_of_exhausted (questions : List Question) :
    (session.askAll settings number total questions).card =
      { session.card with unanswered := session.card.unanswered + questions.length } := by
  induction questions generalizing session number with
  | nil => rfl
  | cons question rest ih =>
    have ended := ending_ask_of_exhausted settings number total exhausted question
    have drained := (session.ask_spends settings number total question).exhausted ended
    rw [askAll, ih (number + 1) drained, card_ask, ended, recordEnding, Scorecard.record,
      List.length_cons, Nat.add_assoc, Nat.add_comm 1]

end Exhausted

theorem card_askAll_of_ask_exhausted {question : Question} (rest : List Question)
    (ended : (session.ask settings number total question).2.ending = .exhausted) :
    (session.askAll settings number total (question :: rest)).card =
      let card := (session.ask settings number total question).1.card
      { card with unanswered := card.unanswered + rest.length } :=
  card_askAll_of_exhausted settings (number + 1) total
    ((session.ask_spends settings number total question).exhausted ended) rest

section Readable

variable {session} (readable : none ∉ session.input)

include readable

theorem ending_ask_of_readable (question : Question) :
    (session.ask settings number total question).2.ending ≠ .unreadable :=
  fun ended => readable ((session.ask_spends settings number total question).unreadable ended)

theorem ask_readable (question : Question) :
    none ∉ (session.ask settings number total question).1.input :=
  fun member => readable ((session.ask_spends settings number total question).suffix.subset member)

theorem total_ask (question : Question) :
    (session.ask settings number total question).1.card.total = session.card.total + 1 := by
  have read := ending_ask_of_readable settings number total readable question
  rw [card_ask]
  cases ended : (session.ask settings number total question).2.ending with
  | done outcome => exact Scorecard.total_record session.card (some outcome)
  | exhausted => exact Scorecard.total_record session.card none
  | unreadable => exact absurd ended read

theorem total_askAll (questions : List Question) :
    (session.askAll settings number total questions).card.total =
      session.card.total + questions.length := by
  induction questions generalizing session number with
  | nil => rfl
  | cons question rest ih =>
    rw [askAll, ih (number + 1) (ask_readable settings number total readable question),
      total_ask settings number total readable, List.length_cons, Nat.add_assoc, Nat.add_comm 1]

theorem quiz_asks_all (questions : List Question) :
    (session.quiz settings number total questions).ending ≠ .unreadable ∧
      (session.quiz settings number total questions).card =
        (session.askAll settings number total questions).card := by
  induction questions generalizing session number with
  | nil => exact ⟨by simp [quiz], rfl⟩
  | cons question rest ih =>
    have later := ih (number + 1) (ask_readable settings number total readable question)
    rw [quiz]
    split
    next next turn asked =>
      cases ended : turn.ending with
      | done outcome =>
        rw [asked] at later
        rw [askAll, asked]
        exact later
      | exhausted =>
        have stopped : (session.ask settings number total question).2.ending = .exhausted := by
          rw [asked, ended]
        rw [card_askAll_of_ask_exhausted session settings number total rest stopped, asked]
        exact ⟨by simp, foldl_unasked next.card rest⟩
      | unreadable =>
        have read := ending_ask_of_readable settings number total readable question
        rw [asked] at read
        exact absurd ended read

end Readable

end Session

theorem Files.document_of_find {files : Files} {path : Path} {content : Text}
    (found : files.find path = .ok (.file (Text.render content).toUTF8)) :
    files.document path = .ok (.ofText path content) := by
  simp only [document, quizText, read, found, Text.ofBytes?_toUTF8, Except.map]

namespace Program

open Result (line)

variable {Generator : Type} {world : World Generator} {quiz : Path} {path : Option Path}
  {settings : Settings} {document : Document} {questions : List Question}

theorem takeQuiz_exitCode (readable : none ∉ world.input) :
    (takeQuiz world settings questions).exitCode = 0 := by
  have given : none ∉ (world.session settings).input := readable
  have read := (Session.quiz_asks_all settings 1 questions.length given questions).1
  unfold takeQuiz
  dsimp only
  split
  next unreadable => exact absurd unreadable read
  next => rfl

theorem run_exitCode (configured : world.settings path = .ok settings)
    (read : world.files.document quiz = .ok document) (filled : document.questions ≠ [])
    (readable : none ∉ world.input) (seed : Option Nat) :
    (run world quiz seed path).exitCode = 0 := by
  unfold run
  rw [configured, documentAt_of_document read]
  dsimp only
  split
  next empty => exact absurd empty filled
  next => exact takeQuiz_exitCode readable

/-- A session on any text counts every question once. Its card is that of asking all the questions,
and the questions behind one that finds the input exhausted are all unanswered. What the program
shows at the end of a run is this card. -/
theorem session_accounts_for_questions :
    (∀ {Generator : Type} (session : Session Generator) (settings : Settings) (number total : Nat)
        (questions : List Question) (typed : Text),
      session.input = Text.linesOfBytes (Text.render typed).toUTF8 →
      let report := session.quiz settings number total questions
      report.ending ≠ .unreadable ∧
        report.card = (session.askAll settings number total questions).card ∧
        report.card.total = session.card.total + questions.length ∧
        ∀ before question after, questions = before ++ question :: after →
          let asked := (session.askAll settings number total before).ask settings
            (number + before.length) total question
          asked.2.ending = .exhausted → report.card =
            { asked.1.card with unanswered := asked.1.card.unanswered + after.length }) ∧
    ∀ {Generator : Type} (world : World Generator) (quiz : Path) (path : Option Path)
        (settings : Settings) (document : Document) (typed : Text),
      world.settings path = .ok settings →
      world.files.document quiz = .ok document → document.questions ≠ [] →
      world.input = Text.linesOfBytes (Text.render typed).toUTF8 →
      ∀ seed,
        let settings := { settings with seed := seed.or settings.seed }
        let session := world.session settings
        let card := (session.askAll settings 1 document.questions.length document.questions).card
        (run world quiz seed path).exitCode = 0 ∧
          (run world quiz seed path).closing = line (world.tools.draw card.table) ∧
          card.total = document.questions.length := by
  refine ⟨?session, ?run⟩
  case session =>
    intro Generator session settings number total questions typed input
    have readable : none ∉ session.input := input ▸ Text.none_not_mem_linesOfBytes typed
    obtain ⟨read, card⟩ := Session.quiz_asks_all settings number total readable questions
    refine ⟨read, card, ?_, ?_⟩
    · rw [card, Session.total_askAll settings number total readable]
    · rintro before question after rfl asked ended
      rw [card, Session.askAll_append]
      exact Session.card_askAll_of_ask_exhausted _ settings _ total after ended
  case run =>
    intro Generator world quiz path settings document typed configured read filled input seed used
      session card
    have readable : none ∉ world.input := input ▸ Text.none_not_mem_linesOfBytes typed
    have given : none ∉ session.input := readable
    have done := run_exitCode configured read filled readable seed
    have shown := run_scored configured read seed
    rw [Scored, if_pos done] at shown
    have asked : finalCard world used document.questions = card :=
      (Session.quiz_asks_all used 1 document.questions.length given document.questions).2
    have counted := Session.total_askAll used 1 document.questions.length given document.questions
    have blank : session.card.total = 0 := rfl
    rw [blank, Nat.zero_add] at counted
    exact ⟨done, by rw [shown, ← asked], counted⟩

def spelling : Question := ⟨.freeText, "Q", [], [("x" : Text)], "x"⟩

def interruptedInput : Text := "x\n1"

def interruptedQuiz : Text :=
  Text.join "\n" ["```quiz", "-- Type text", "-- Question Q", "-- Answer x", "```",
    "```quiz", "-- Type fb", "-- Question [blank] + [blank]", "-- Answer 1, 3", "```",
    "```quiz", "-- Type text", "-- Question Q", "-- Answer x", "```"]

-- The second of three questions has two blanks, and the input ends before the second blank.
def interrupted : World Unit :=
  ⟨⟨.directory [plainSettingsFile, ("q.md", .file (Text.render interruptedQuiz).toUTF8)], []⟩,
    ⟨none, none⟩, Text.linesOfBytes (Text.render interruptedInput).toUTF8, plainTools, ()⟩

def interruptedSession : Session Unit := interrupted.session plainSettings

theorem session_accounts_for_interrupted :
    interrupted.input = Text.linesOfBytes (Text.render interruptedInput).toUTF8 ∧
      ((interruptedSession.askAll plainSettings 1 3 [spelling]).ask plainSettings 2 3
        addition).2.ending = .exhausted ∧
      (interruptedSession.quiz plainSettings 1 3 [spelling, addition, spelling]).card =
        ⟨1, 0, 0, 2⟩ ∧
      interrupted.settings none = .ok plainSettings ∧
      (interrupted.files.document "q.md").map (·.questions) = .ok [spelling, addition, spelling] ∧
      (run interrupted "q.md" none none).exitCode = 0 ∧
      (run interrupted "q.md" none none).closing =
        line (Table.draw (interruptedSession.askAll plainSettings 1 3
          [spelling, addition, spelling]).card.table) := by
  have ended : ((interruptedSession.askAll plainSettings 1 3 [spelling]).ask plainSettings 2 3
      addition).2.ending = .exhausted := by
    decide +kernel
  have configured : interrupted.settings none = .ok plainSettings := by decide +kernel
  have read : interrupted.files.document "q.md" = .ok (.ofText "q.md" interruptedQuiz) :=
    Files.document_of_find rfl
  have questions : (Document.ofText "q.md" interruptedQuiz).questions =
      [spelling, addition, spelling] := by
    decide +kernel
  have filled : (Document.ofText "q.md" interruptedQuiz).questions ≠ [] := by
    rw [questions]
    exact List.cons_ne_nil _ _
  obtain ⟨counts, shows⟩ := session_accounts_for_questions
  obtain ⟨-, -, -, stops⟩ := counts interruptedSession plainSettings 1 3
    [spelling, addition, spelling] interruptedInput rfl
  have card := stops [spelling] addition [spelling] rfl ended
  obtain ⟨done, shown, -⟩ := shows interrupted "q.md" none plainSettings _ interruptedInput
    configured read filled rfl none
  rw [questions] at shown
  exact ⟨rfl, ended, card.trans (by decide +kernel), configured,
    by rw [read, Except.map, questions], done, shown⟩

end Program

end PlainQuiz
