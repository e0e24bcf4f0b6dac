import PlainQuiz.Proofs.Files.Tree
import PlainQuiz.Proofs.Text.Utf8

set_option autoImplicit false

namespace PlainQuiz

theorem QuizFile.path_of_document? (quiz : QuizFile) {document : Document}
    (read : quiz.document? = some document) : document.path = quiz.path := by
  obtain ⟨content, -, rfl⟩ := Option.map_eq_some_iff.mp read
  rfl

namespace Files

variable {files : Files} {path : Path} {tree : FileTree}

theorem isDirectory_of_directory? (found : files.directory? path = some tree) :
    tree.isDirectory = true := by
  unfold directory? at found
  split at found
  next there =>
    split_ifs at found with directory
    exact Option.some.inj found ▸ directory
  next => cases found

theorem loadDirectory_of_directory? (found : files.directory? path = some tree) :
    files.loadDirectory path = .ok (.ofTree path tree) := by
  rw [loadDirectory, found]

theorem isQuiz_locate_iff {way : List Path.Name} {bytes : ByteArray} (listed : tree.Listed)
    (directory : tree.isDirectory = true) (held : tree.Holds way bytes) :
    Path.isQuiz (Path.locate path way) = true ↔
      ∃ name ∈ way.getLast?, Path.HasQuizEnding name := by
  have names := held.names listed
  -- The tree is a directory, so there is a last name, and the name of the tree does not count.
  obtain ⟨before, name, rfl⟩ : ∃ before name, way = before ++ [name] := by
    cases held with
    | file => cases directory
    | entry => exact ⟨_, _, (List.dropLast_concat_getLast (List.cons_ne_nil _ _)).symm⟩
  rw [Path.locate, List.foldl_concat, Path.isQuiz_join_iff (names name (by simp))]
  simp

/-- Loading a directory succeeds. Each file in it at any depth that has a quiz file's name gives one
document, or a warning if it is not text, in the order of the bytes of their paths, and nothing else
does. The order in which directories are listed does not count. -/
theorem loadDirectory_of_listed {files : Files} {path : Path} {tree : FileTree}
    (found : files.directory? path = some tree) (listed : tree.Listed) :
    ∃ (loaded : Loaded) (quizzes : List (List Path.Name × ByteArray)),
      files.loadDirectory path = .ok loaded ∧
      (∀ way bytes, (way, bytes) ∈ quizzes ↔
        tree.Holds way bytes ∧ ∃ name ∈ way.getLast?, Path.HasQuizEnding name) ∧
      quizzes.Pairwise (fun a b =>
        Path.components (Path.locate path a.1) < Path.components (Path.locate path b.1)) ∧
      loaded.documents = quizzes.filterMap (fun quiz =>
        (Text.ofBytes? quiz.2).map (Document.ofText (Path.locate path quiz.1))) ∧
      loaded.documents.Pairwise (fun a b => Path.components a.path < Path.components b.path) ∧
      loaded.events = quizzes.flatMap (fun quiz =>
        match Text.ofBytes? quiz.2 with
        | some content => Document.ofTextEvents (Path.locate path quiz.1) content
        | none => [.fileSkipped (Path.locate path quiz.1)]) ∧
      (∀ place, (Event.fileSkipped place).level = .warning) ∧
      ∀ (others : Files) (other : FileTree), tree.Relisted other →
        others.directory? path = some other → others.loadDirectory path = .ok loaded := by
  have directory := isDirectory_of_directory? found
  obtain ⟨ways, member, same⟩ := listed.exists_ways path
  have increasing := listed.quizFiles_pairwise path
  refine ⟨.ofTree path tree, ways, loadDirectory_of_directory? found, fun way bytes => ?_, ?_, ?_,
    ?_, ?_, fun place => rfl, fun others other relisted foundOther => ?_⟩
  · exact (member way bytes).trans (and_congr_right (isQuiz_locate_iff listed directory))
  · rwa [same, List.pairwise_map] at increasing
  · simp only [Loaded.ofTree, same, List.filterMap_map]
    rfl
  · refine increasing.filterMap _ fun a b less document first documentNext next => ?_
    rwa [a.path_of_document? first, b.path_of_document? next]
  · simp only [Loaded.ofTree, same, List.flatMap_map]
    rfl
  · rw [loadDirectory_of_directory? foundOther, Loaded.ofTree, Loaded.ofTree,
      relisted.quizFiles_eq listed]

-- Names that begin alike, a directory named like a quiz file, and a file that is not text under a
-- name that is none either.
def drawer : List (Path.Name × FileTree) :=
  [("é.quiz", .file (Text.render "").toUTF8), (".md", .file .empty)]

def brokenName : Path.Name := 0xFF :: ".md"

def shelf (drawer : List (Path.Name × FileTree)) : List (Path.Name × FileTree) :=
  [("b", .directory drawer), (brokenName, .file ⟨#[0xFF]⟩), ("notes.txt", .file .empty),
    ("b.quiz", .directory [("z.markdown", .file (Text.render "?").toUTF8)])]

def room (shelf : List (Path.Name × FileTree)) : Files :=
  ⟨.directory [("shelf", .directory shelf)], []⟩

theorem loadDirectory_of_shelf :
    (room (shelf drawer)).directory? "shelf" = some (.directory (shelf drawer)) ∧
      (FileTree.directory (shelf drawer)).Listed ∧
      ∃ loaded, (room (shelf drawer)).loadDirectory "shelf" = .ok loaded ∧
        (room (shelf drawer.reverse).reverse).loadDirectory "shelf" = .ok loaded ∧
        Document.ofText "shelf/b.quiz/z.markdown" "?" ∈ loaded.documents ∧
        Event.fileSkipped (Path.join "shelf" brokenName) ∈ loaded.events := by
  have found : (room (shelf drawer)).directory? "shelf" = some (.directory (shelf drawer)) := rfl
  have listed : (FileTree.directory (shelf drawer)).Listed := by
    refine .directory (by decide) (by decide) ?_
    simp only [shelf, drawer, List.forall_mem_cons]
    refine ⟨.directory (by decide) (by decide) ?_, .file _, .file _,
      .directory (by decide) (by decide) ?_, nofun⟩
    · simpa only [List.forall_mem_cons] using ⟨.file _, .file _, nofun⟩
    · simpa only [List.forall_mem_cons] using ⟨.file _, nofun⟩
  have relisted : (FileTree.directory (shelf drawer)).Relisted
      (.directory (shelf drawer.reverse).reverse) :=
    .trans (@FileTree.Relisted.within [] _ _ _ _ (.reordered (List.reverse_perm drawer).symm))
      (.reordered (List.reverse_perm _).symm)
  obtain ⟨loaded, quizzes, loads, member, -, documents, -, events, -, again⟩ :=
    loadDirectory_of_listed found listed
  have held : (FileTree.directory (shelf drawer)).Holds [("b.quiz" : Path), "z.markdown"]
      (Text.render "?").toUTF8 :=
    .entry (.tail _ (.tail _ (.tail _ (.head _)))) (.entry (.head _) (.file _))
  have heldBroken : (FileTree.directory (shelf drawer)).Holds [brokenName] ⟨#[0xFF]⟩ :=
    .entry (.tail _ (.head _)) (.file _)
  have quiz := (member _ _).mpr
    ⟨held, "z.markdown", rfl, "z", "markdown", rfl, by decide, by decide⟩
  have broken := (member _ _).mpr
    ⟨heldBroken, brokenName, rfl, [0xFF], "md", rfl, by decide, by decide⟩
  have noText : Text.ofBytes? ⟨#[0xFF]⟩ = none := by decide +kernel
  refine ⟨found, listed, loaded, loads, again _ _ relisted rfl, ?_, ?_⟩
  · rw [documents, List.mem_filterMap]
    exact ⟨_, quiz, congrArg (Option.map _) (Text.ofBytes?_toUTF8 "?")⟩
  · rw [events, List.mem_flatMap]
    refine ⟨_, broken, ?_⟩
    simp only [noText]
    exact List.mem_singleton_self _

end Files

end PlainQuiz
