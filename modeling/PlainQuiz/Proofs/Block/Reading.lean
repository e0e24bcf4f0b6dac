import Mathlib.Data.List.Induction
import PlainQuiz.Block.Reader
import PlainQuiz.Proofs.Block.Line

set_option autoImplicit false

namespace PlainQuiz.Block.Reading

def placesFrom (above : List Text) : List Text → List (List Text × Text)
  | [] => []
  | line :: rest => (above, line) :: placesFrom (above ++ [line]) rest

def places (lines : List Text) : List (List Text × Text) := placesFrom [] lines

def nearest? (above : List Text) : Option Text := above.reverse.find? isDirective

-- A bare answer directive owns the line right below it only.
def owner (above : List Text) : Mode :=
  match nearest? above with
  | none => .idle
  | some directive =>
    if isBarePrompt directive then .inPrompt
    else if isBareAnswer directive then
      if above.getLast? = some directive then .inAnswer else .idle
    else if isOption directive then .inOption (above.countP isOption - 1)
    else .idle

def kind (lines : List Text) : Kind :=
  match lines.reverse.find? isKind with
  | none => .multipleChoice
  | some line => Kind.ofTag (words kindMarker line)

def options : List Text → List Choice
  | [] => []
  | line :: rest =>
    if isOption line then
      ⟨words marker line, Text.join "\n" (rest.takeWhile (!isDirective ·))⟩ :: options rest
    else options rest

inductive Edit where
  | replace (text : Text)
  | append (line : Text)
  -- Counts for a prompt that is still empty only.
  | supply (line : Text)

namespace Edit

def text : Edit → Text
  | replace text | append text | supply text => text

def replaces : Edit → Bool
  | replace _ => true
  | append _ | supply _ => false

def appends : Edit → Bool
  | append _ => true
  | replace _ | supply _ => false

-- Everything above the last replacement is gone, and behind the first text that is left only
-- appended lines count.
def kept : List Edit → List Text
  | [] => []
  | edit :: later =>
    if later.any replaces then kept later
    else edit.text :: (later.filter appends).map text

end Edit

def edit? (above : List Text) (line : Text) : Option Edit :=
  if isPrompt line then
    if words promptMarker line = [] then none else some (.replace (words promptMarker line))
  else if isDirective line then none
  else
    match owner above with
    | .inPrompt => some (.append line)
    | .inOption _ | .inAnswer => none
    | .idle =>
      if above.any isOption || ("--" : Text).isPrefixOf line then none else some (.supply line)

def edits (lines : List Text) : List Edit :=
  (places lines).filterMap fun (above, line) => edit? above line

def prompt (lines : List Text) : Text := Text.join "\n" (Edit.kept (edits lines))

def answer? (above : List Text) (line : Text) : Option Text :=
  if isDirective line then
    if isAnswer line && words answerMarker line != [] then some (words answerMarker line) else none
  else if owner above = .inAnswer then some line
  else none

def lastAnswer? (lines : List Text) : Option (List Text × Text) :=
  (places lines).reverse.findSome? fun (above, line) => (answer? above line).map (above, ·)

def answers (lines : List Text) : List Text :=
  match lastAnswer? lines with
  | none => []
  | some (above, text) => Answer.interpret (kind above) (prompt above) text

def rawAnswer (lines : List Text) : Text :=
  match lastAnswer? lines with
  | none => []
  | some (_, text) => text

def draft (lines : List Text) : Draft :=
  ⟨kind lines, prompt lines, options lines, answers lines, rawAnswer lines⟩

def reader (lines : List Text) : Reader := ⟨owner lines, draft lines⟩

theorem placesFrom_concat (above lines : List Text) (line : Text) :
    placesFrom above (lines ++ [line]) = placesFrom above lines ++ [(above ++ lines, line)] := by
  induction lines generalizing above with
  | nil => simp [placesFrom]
  | cons first rest ih => simp [placesFrom, ih]

theorem places_concat (lines : List Text) (line : Text) :
    places (lines ++ [line]) = places lines ++ [(lines, line)] := by
  simpa [places] using placesFrom_concat [] lines line

theorem nearest?_concat (lines : List Text) (line : Text) :
    nearest? (lines ++ [line]) = if isDirective line then some line else nearest? lines := by
  by_cases directive : isDirective line = true <;> simp [nearest?, directive]

theorem isDirective_of_nearest? {above : List Text} {directive : Text}
    (nearest : nearest? above = some directive) : isDirective directive = true := by
  simpa using List.find?_some nearest

theorem exists_section {lines : List Text} {directive : Text}
    (nearest : nearest? lines = some directive) :
    ∃ above contents, lines = above ++ directive :: contents ∧ isDirective directive = true ∧
      ∀ line ∈ contents, isDirective line = false := by
  obtain ⟨stops, below, above, shape, plain⟩ := List.find?_eq_some_iff_append.mp nearest
  refine ⟨above.reverse, below.reverse, ?_, stops, by simpa using plain⟩
  rw [← List.reverse_reverse lines, shape]
  simp

theorem nearest?_eq_none_iff {above : List Text} :
    nearest? above = none ↔ ∀ line ∈ above, isDirective line = false := by
  simp [nearest?, List.find?_eq_none]

theorem kind_concat (lines : List Text) (line : Text) :
    kind (lines ++ [line]) =
      if isKind line then Kind.ofTag (words kindMarker line) else kind lines := by
  by_cases names : isKind line = true <;> simp [kind, names]

theorem Edit.kept_concat (edits : List Edit) (edit : Edit) :
    kept (edits ++ [edit]) =
      if edit.replaces || (kept edits).isEmpty then [edit.text]
      else if edit.appends then kept edits ++ [edit.text]
      else kept edits := by
  induction edits with
  | nil => simp [kept]
  | cons first later ih =>
    by_cases replaced : edit.replaces = true
    · simp [kept, ih, replaced]
    · by_cases gone : later.any replaces = true
      · simp [kept, ih, replaced, gone]
      · by_cases appended : edit.appends = true <;>
          simp [kept, replaced, gone, appended, List.filter_append]

theorem Edit.mem_of_mem_kept {edits : List Edit} {text : Text} (member : text ∈ kept edits) :
    ∃ edit ∈ edits, edit.text = text := by
  induction edits with
  | nil => simp [kept] at member
  | cons first later ih =>
    rw [kept] at member
    split at member
    next =>
      obtain ⟨edit, inside, same⟩ := ih member
      exact ⟨edit, List.mem_cons_of_mem first inside, same⟩
    next =>
      rcases List.mem_cons.mp member with rfl | appended
      · exact ⟨first, List.mem_cons_self, rfl⟩
      · obtain ⟨edit, inside, same⟩ := List.mem_map.mp appended
        exact ⟨edit, List.mem_cons_of_mem first (List.mem_filter.mp inside).1, same⟩

theorem edits_concat (lines : List Text) (line : Text) :
    edits (lines ++ [line]) = edits lines ++ (edit? lines line).toList := by
  cases change : edit? lines line <;>
    simp [edits, places_concat, List.filterMap_append, change]

theorem mem_of_mem_placesFrom {above lines : List Text} {place : List Text × Text}
    (member : place ∈ placesFrom above lines) : place.2 ∈ lines := by
  induction lines generalizing above with
  | nil => simp [placesFrom] at member
  | cons first rest ih =>
    rcases List.mem_cons.mp member with rfl | later
    · exact List.mem_cons_self
    · exact List.mem_cons_of_mem first (ih later)

theorem text_ne_nil_of_edit? {above : List Text} {line : Text} {edit : Edit} (filled : line ≠ [])
    (change : edit? above line = some edit) : edit.text ≠ [] := by
  unfold edit? at change
  by_cases prompts : isPrompt line = true
  · rw [if_pos prompts] at change
    split_ifs at change with bare
    obtain rfl := Option.some.inj change
    exact bare
  · rw [if_neg prompts] at change
    by_cases directive : isDirective line = true
    · simp [directive] at change
    · rw [if_neg directive] at change
      cases place : owner above with
      | inPrompt =>
        obtain rfl := Option.some.inj (by simpa [place] using change)
        exact filled
      | inOption _ | inAnswer => simp [place] at change
      | idle =>
        rw [place] at change
        dsimp only at change
        split_ifs at change
        obtain rfl := Option.some.inj change
        exact filled

theorem kept_ne_nil {lines : List Text} (filled : ∀ line ∈ lines, line ≠ []) :
    ∀ text ∈ Edit.kept (edits lines), text ≠ [] := by
  intro text member
  obtain ⟨edit, inside, rfl⟩ := Edit.mem_of_mem_kept member
  obtain ⟨⟨above, line⟩, place, change⟩ := List.mem_filterMap.mp inside
  exact text_ne_nil_of_edit? (filled line (mem_of_mem_placesFrom place)) change

def Edit.apply (prompt : Text) : Edit → Text
  | replace text => text
  | append line => Text.addLine prompt line
  | supply line => if prompt = [] then line else prompt

theorem prompt_concat {lines : List Text} (filled : ∀ line ∈ lines, line ≠ []) (line : Text) :
    prompt (lines ++ [line]) =
      match edit? lines line with
      | none => prompt lines
      | some edit => edit.apply (prompt lines) := by
  have filledKept := kept_ne_nil filled
  have empty : prompt lines = [] ↔ Edit.kept (edits lines) = [] := Text.join_eq_nil_iff filledKept
  cases change : edit? lines line with
  | none => simp [prompt, edits_concat, change]
  | some edit =>
    rw [prompt, edits_concat, change, Option.toList_some, Edit.kept_concat]
    cases edit with
    | replace text => simp [Edit.replaces, Edit.text, Edit.apply]
    | append text =>
      by_cases fresh : Edit.kept (edits lines) = []
      · simp [fresh, Edit.text, Edit.apply, prompt, Text.join, Text.addLine]
      · have extended := Text.join_concat filledKept text
        simpa [fresh, Edit.replaces, Edit.appends, Edit.text, Edit.apply, prompt] using extended
    | supply text =>
      by_cases fresh : Edit.kept (edits lines) = []
      · simp [fresh, Edit.text, Edit.apply, empty]
      · have later : prompt lines ≠ [] := fun nothing => fresh (empty.mp nothing)
        simp only [Edit.apply, if_neg later]
        simp [fresh, Edit.replaces, Edit.appends, prompt]

theorem lastAnswer?_concat (lines : List Text) (line : Text) :
    lastAnswer? (lines ++ [line]) =
      match answer? lines line with
      | none => lastAnswer? lines
      | some text => some (lines, text) := by
  cases given : answer? lines line <;> simp [lastAnswer?, places_concat, given]

theorem owner_concat_content {line : Text} (content : isDirective line = false)
    (lines : List Text) :
    owner (lines ++ [line]) = if owner lines = .inAnswer then .idle else owner lines := by
  have countSame : (lines ++ [line]).countP isOption = lines.countP isOption := by
    simp [List.countP_append, isOption_of_content content]
  unfold owner
  rw [nearest?_concat, content, countSame]
  cases nearest : nearest? lines with
  | none => simp
  | some directive =>
    have other : some line ≠ some directive := fun same => by
      have directive := isDirective_of_nearest? nearest
      rw [← Option.some.inj same, content] at directive
      exact absurd directive (by decide)
    simp only [Bool.false_eq_true, if_false, List.getLast?_append, List.getLast?_singleton,
      Option.some_or, if_neg other]
    split_ifs <;> simp_all

theorem owner_concat_directive {line : Text} (directive : isDirective line = true)
    (lines : List Text) :
    owner (lines ++ [line]) =
      if isBarePrompt line then .inPrompt
      else if isBareAnswer line then .inAnswer
      else if isOption line then .inOption (lines.countP isOption)
      else .idle := by
  unfold owner
  rw [nearest?_concat, if_pos directive]
  by_cases option : isOption line = true <;> simp [List.countP_append, option]

theorem length_options (lines : List Text) : (options lines).length = lines.countP isOption := by
  induction lines with
  | nil => rfl
  | cons line rest ih =>
    by_cases option : isOption line = true <;> simp [options, option, ih]

theorem options_eq_nil_iff (lines : List Text) :
    options lines = [] ↔ lines.any isOption = false := by
  rw [← List.length_eq_zero_iff, length_options, List.countP_eq_zero]
  simp

theorem options_of_content {lines : List Text}
    (content : ∀ line ∈ lines, isDirective line = false) : options lines = [] := by
  rw [options_eq_nil_iff, List.any_eq_false]
  intro line member
  simp [isOption_of_content (content line member)]

theorem takeWhile_append_directive {directive : Text} (stops : isDirective directive = true)
    (lines after : List Text) :
    (lines ++ directive :: after).takeWhile (!isDirective ·) =
      lines.takeWhile (!isDirective ·) := by
  induction lines with
  | nil => simp [stops]
  | cons first rest ih => simp [List.takeWhile_cons, ih]

theorem options_append_section {directive : Text} (stops : isDirective directive = true)
    {contents : List Text} (content : ∀ line ∈ contents, isDirective line = false)
    (above : List Text) :
    options (above ++ directive :: contents) =
      options above ++
        if isOption directive then [⟨words marker directive, Text.join "\n" contents⟩] else [] := by
  induction above with
  | nil =>
    have whole : contents.takeWhile (!isDirective ·) = contents :=
      List.takeWhile_eq_self_iff.mpr (by simpa using content)
    by_cases option : isOption directive = true <;>
      simp [options, option, whole, options_of_content content]
  | cons first rest ih =>
    by_cases option : isOption first = true <;>
      simp [options, option, ih, takeWhile_append_directive stops]

theorem options_concat_content {lines : List Text} {line : Text}
    (content : isDirective line = false) (filled : ∀ line ∈ lines, line ≠ []) :
    options (lines ++ [line]) =
      if (nearest? lines).any isOption then
        (options lines).modify (lines.countP isOption - 1) fun choice =>
          { choice with text := Text.addLine choice.text line }
      else options lines := by
  cases nearest : nearest? lines with
  | none =>
    have plain := nearest?_eq_none_iff.mp nearest
    have plainAll : ∀ next ∈ lines ++ [line], isDirective next = false := by
      simpa [or_imp, forall_and] using ⟨plain, content⟩
    rw [options_of_content plain, options_of_content plainAll]
    rfl
  | some directive =>
    obtain ⟨above, contents, rfl, stops, plain⟩ := exists_section nearest
    have plainAll : ∀ next ∈ contents ++ [line], isDirective next = false := by
      simpa [or_imp, forall_and] using ⟨plain, content⟩
    have filledContents : ∀ next ∈ contents, next ≠ [] :=
      fun next member => filled next (by simp [member])
    have whole := options_append_section stops plain above
    rw [List.append_assoc, List.cons_append, options_append_section stops plainAll,
      Text.join_concat filledContents, ← length_options, whole]
    by_cases option : isOption directive = true
    · simp [option, List.modify_eq_take_drop]
    · simp [option]

theorem options_concat_directive {line : Text} (directive : isDirective line = true)
    (lines : List Text) :
    options (lines ++ [line]) =
      options lines ++ if isOption line then [⟨words marker line, []⟩] else [] := by
  rw [options_append_section directive (by simp)]
  rfl

theorem takesPrompt_draft (lines : List Text) (line : Text) :
    (draft lines).takesPrompt line =
      (prompt lines == [] && !(lines.any isOption || ("--" : Text).isPrefixOf line)) := by
  have empty : (options lines == []) = !lines.any isOption := by
    rw [Bool.eq_iff_iff, beq_iff_eq, options_eq_nil_iff, Bool.not_eq_true']
  simp only [Draft.takesPrompt, draft, empty, Bool.not_or, Bool.and_assoc]

theorem edit?_of_directive {line : Text} (directive : isDirective line = true)
    (notPrompt : isPrompt line = false) (above : List Text) : edit? above line = none := by
  simp [edit?, directive, notPrompt]

theorem answer?_of_directive {line : Text} (directive : isDirective line = true)
    (notAnswer : isAnswer line = false) (above : List Text) : answer? above line = none := by
  simp [answer?, directive, notAnswer]

theorem answers_concat (lines : List Text) (line : Text) :
    answers (lines ++ [line]) =
      match answer? lines line with
      | none => answers lines
      | some text => Answer.interpret (kind lines) (prompt lines) text := by
  unfold answers
  rw [lastAnswer?_concat]
  cases answer? lines line <;> rfl

theorem rawAnswer_concat (lines : List Text) (line : Text) :
    rawAnswer (lines ++ [line]) = (answer? lines line).getD (rawAnswer lines) := by
  unfold rawAnswer
  rw [lastAnswer?_concat]
  cases answer? lines line <;> rfl

theorem reader_concat {lines : List Text} (filled : ∀ line ∈ lines, line ≠ []) (line : Text) :
    reader (lines ++ [line]) =
      ⟨owner (lines ++ [line]),
        if isKind line then Kind.ofTag (words kindMarker line) else kind lines,
        match edit? lines line with
        | none => prompt lines
        | some edit => edit.apply (prompt lines),
        options (lines ++ [line]),
        match answer? lines line with
        | none => answers lines
        | some text => Answer.interpret (kind lines) (prompt lines) text,
        (answer? lines line).getD (rawAnswer lines)⟩ := by
  rw [reader, draft, kind_concat, prompt_concat filled, answers_concat, rawAnswer_concat]

theorem owner_eq_inOption_iff {lines : List Text} {index : Nat} :
    owner lines = .inOption index ↔
      (nearest? lines).any isOption = true ∧ index = lines.countP isOption - 1 := by
  unfold owner
  cases nearest? lines with
  | none => simp
  | some directive =>
    by_cases option : isOption directive = true
    · have others := option
      simp only [isOption, Bool.and_eq_true, Bool.not_eq_true'] at others
      obtain ⟨⟨_, notPrompt⟩, notAnswer⟩ := others
      simp [option, isBarePrompt, isBareAnswer, notPrompt, notAnswer, eq_comm]
    · have plain : (some directive).any isOption = false := by simpa using option
      simp only [plain, Bool.false_eq_true, false_and, iff_false]
      split_ifs <;> simp

section Step

variable {lines : List Text} {line : Text} (filled : ∀ line ∈ lines, line ≠ [])

include filled

theorem step_kind (names : isKind line = true) (trimmed : Text.trim line = line) :
    (reader lines).step (Line.ofText line) = reader (lines ++ [line]) := by
  have directive := isDirective_of_isKind names
  have notPrompt := isPrompt_of_isKind names
  have notAnswer := isAnswer_of_isKind names
  have notOption : isOption line = false := by simp [isOption, names]
  have unedited := edit?_of_directive directive notPrompt lines
  have ungiven := answer?_of_directive directive notAnswer lines
  rw [ofText_kind names, Reader.step, if_neg (words_kind_ne_nil names trimmed),
    reader_concat filled, owner_concat_directive directive, options_concat_directive directive]
  simp [unedited, ungiven, names, notOption, isBarePrompt, isBareAnswer, notPrompt, notAnswer,
    reader, draft]

theorem step_prompt (prompts : isPrompt line = true) :
    (reader lines).step (Line.ofText line) = reader (lines ++ [line]) := by
  have directive := isDirective_of_isPrompt prompts
  have notKind := isKind_of_isPrompt prompts
  have notAnswer := isAnswer_of_isPrompt prompts
  have notOption : isOption line = false := by simp [isOption, prompts]
  have ungiven := answer?_of_directive directive notAnswer lines
  rw [ofText_prompt prompts, Reader.step, reader_concat filled, owner_concat_directive directive,
    options_concat_directive directive]
  by_cases bare : words promptMarker line = []
  · simp [edit?, ungiven, prompts, notKind, notOption, isBarePrompt, bare, reader, draft]
  · simp [edit?, Edit.apply, ungiven, prompts, notKind, notOption, isBarePrompt, isBareAnswer,
      notAnswer, bare, reader, draft]

theorem step_answer (directive : isDirective line = true) (answers : isAnswer line = true) :
    (reader lines).step (Line.ofText line) = reader (lines ++ [line]) := by
  have notKind := isKind_of_isAnswer answers
  have notPrompt := isPrompt_of_isAnswer answers
  have notOption : isOption line = false := by simp [isOption, answers]
  have unedited := edit?_of_directive directive notPrompt lines
  rw [ofText_answer directive answers, Reader.step, reader_concat filled,
    owner_concat_directive directive, options_concat_directive directive]
  by_cases bare : words answerMarker line = []
  · simp [answer?, unedited, answers, directive, notKind, notPrompt, notOption, isBarePrompt,
      isBareAnswer, bare, reader, draft]
  · simp [answer?, unedited, answers, directive, notKind, notPrompt, notOption, isBarePrompt,
      isBareAnswer, bare, reader, draft, Draft.setAnswer]

theorem step_option (option : isOption line = true) :
    (reader lines).step (Line.ofText line) = reader (lines ++ [line]) := by
  have directive := isDirective_of_isOption option
  have others := option
  simp only [isOption, Bool.and_eq_true, Bool.not_eq_true'] at others
  obtain ⟨⟨⟨_, notKind⟩, notPrompt⟩, notAnswer⟩ := others
  have unedited := edit?_of_directive directive notPrompt lines
  have ungiven := answer?_of_directive directive notAnswer lines
  rw [ofText_option option, Reader.step, reader_concat filled, owner_concat_directive directive,
    options_concat_directive directive]
  simp [unedited, ungiven, notKind, option, isBarePrompt, isBareAnswer, notPrompt, notAnswer,
    reader, draft, Draft.addOption, length_options]

theorem options_concat_of_owner (content : isDirective line = false) :
    options (lines ++ [line]) =
      match owner lines with
      | .inOption index => (options lines).modify index fun choice =>
          { choice with text := Text.addLine choice.text line }
      | _ => options lines := by
  rw [options_concat_content content filled]
  by_cases option : (nearest? lines).any isOption = true
  · rw [if_pos option, owner_eq_inOption_iff.mpr ⟨option, rfl⟩]
  · rw [if_neg option]
    cases place : owner lines with
    | inOption index => exact absurd (owner_eq_inOption_iff.mp place).1 option
    | idle | inPrompt | inAnswer => rfl

theorem step_content (content : isDirective line = false) :
    (reader lines).step (Line.ofText line) = reader (lines ++ [line]) := by
  have notKind := isKind_of_content content
  have notPrompt := isPrompt_of_content content
  rw [ofText_content content, reader_concat filled, owner_concat_content content,
    options_concat_of_owner filled content]
  cases place : owner lines with
  | inPrompt =>
    simp [reader, Reader.step, place, edit?, answer?, notKind, notPrompt, content, draft,
      Draft.addPromptLine, Edit.apply]
  | inOption index =>
    simp [reader, Reader.step, place, edit?, answer?, notKind, notPrompt, content, draft,
      Draft.addOptionLine]
  | inAnswer =>
    simp [reader, Reader.step, place, edit?, answer?, notKind, notPrompt, content, draft,
      Draft.setAnswer]
  | idle =>
    have ungiven : answer? lines line = none := by simp [answer?, content, place]
    have edited : edit? lines line =
        if lines.any isOption || ("--" : Text).isPrefixOf line then none
        else some (.supply line) := by
      rw [edit?, if_neg (by simp [notPrompt]), if_neg (by simp [content]), place]
    simp only [reader, Reader.step, place, takesPrompt_draft, edited, ungiven, notKind]
    cases lines.any isOption || ("--" : Text).isPrefixOf line with
    | true => simp [draft]
    | false => by_cases empty : prompt lines = [] <;> simp [draft, Edit.apply, empty]

end Step

theorem step_reader {lines : List Text} {line : Text} (filled : ∀ line ∈ lines, line ≠ [])
    (trimmed : Text.trim line = line) :
    (reader lines).step (Line.ofText line) = reader (lines ++ [line]) := by
  by_cases directive : isDirective line = true
  · by_cases names : isKind line = true
    · exact step_kind filled names trimmed
    · by_cases prompts : isPrompt line = true
      · exact step_prompt filled prompts
      · by_cases answers : isAnswer line = true
        · exact step_answer filled directive answers
        · exact step_option filled (by simp [isOption, directive, names, prompts, answers])
  · exact step_content filled (Bool.eq_false_iff.mpr directive)

theorem run_eq_reader {lines : List Text}
    (clean : ∀ line ∈ lines, line ≠ [] ∧ Text.trim line = line) :
    Reader.start.run (lines.map Line.ofText) = reader lines := by
  induction lines using List.reverseRecOn with
  | nil => rfl
  | append_singleton lines line ih =>
    have cleanLines : ∀ line ∈ lines, line ≠ [] ∧ Text.trim line = line :=
      fun next member => clean next (by simp [member])
    have earlier := ih cleanLines
    unfold Reader.run at earlier ⊢
    rw [List.map_append, List.foldl_append, earlier]
    exact step_reader (fun next member => (cleanLines next member).1) (clean line (by simp)).2

theorem run_lines (source : Text) :
    Reader.start.run (Block.lines source) = reader (contentLines source) :=
  run_eq_reader fun _ member => ⟨ne_nil_of_mem_contentLines member, trim_of_mem_contentLines member⟩

theorem draft_eq (source : Text) : Block.draft source = draft (contentLines source) :=
  congrArg Reader.draft (run_lines source)

/-- Reading a block line by line finds what its trimmed lines say by the nearest directive above
them, and the question is made of that. -/
theorem reader_holds_reading (source : Text) :
    Reader.start.run (Block.lines source) = reader (contentLines source) ∧
      Question.ofBlock source =
        if Text.trim source = [] then .error .empty
        else (draft (contentLines source)).finish := by
  refine ⟨run_lines source, ?_⟩
  rw [Question.ofBlock, draft_eq]

end PlainQuiz.Block.Reading
