import Mathlib.Tactic.Choose
import PlainQuiz.Proofs.Files.Path

set_option autoImplicit false

namespace PlainQuiz.FileTree

inductive Holds : FileTree → List Path.Name → ByteArray → Prop
  | file (bytes : ByteArray) : Holds (.file bytes) [] bytes
  | entry {entries : List (Path.Name × FileTree)} {name : Path.Name} {tree : FileTree}
      {way : List Path.Name} {bytes : ByteArray} (member : (name, tree) ∈ entries)
      (held : Holds tree way bytes) :
      Holds (.directory entries) (name :: way) bytes

inductive Listed : FileTree → Prop
  | file (bytes : ByteArray) : Listed (.file bytes)
  | directory {entries : List (Path.Name × FileTree)} (once : (entries.map (·.1)).Nodup)
      (names : ∀ entry ∈ entries, Path.IsName entry.1)
      (below : ∀ entry ∈ entries, Listed entry.2) : Listed (.directory entries)

inductive Relisted : FileTree → FileTree → Prop
  | refl (tree : FileTree) : Relisted tree tree
  | reordered {entries others : List (Path.Name × FileTree)} (same : entries.Perm others) :
      Relisted (.directory entries) (.directory others)
  | within {before after : List (Path.Name × FileTree)} {name : Path.Name} {tree other : FileTree}
      (inner : Relisted tree other) :
      Relisted (.directory (before ++ (name, tree) :: after))
        (.directory (before ++ (name, other) :: after))
  | trans {tree middle other : FileTree} (first : Relisted tree middle)
      (second : Relisted middle other) : Relisted tree other

variable {tree other : FileTree} {entries : List (Path.Name × FileTree)} {path : Path}
  {way : List Path.Name} {bytes : ByteArray}

theorem holds_file_iff {held : ByteArray} :
    (FileTree.file held).Holds way bytes ↔ way = [] ∧ bytes = held := by
  constructor
  · rintro ⟨⟩
    exact ⟨rfl, rfl⟩
  · rintro ⟨rfl, rfl⟩
    exact .file bytes

theorem holds_directory_iff :
    (directory entries).Holds way bytes ↔
      ∃ entry ∈ entries, ∃ rest, way = entry.1 :: rest ∧ entry.2.Holds rest bytes := by
  constructor
  · intro held
    cases held with
    | entry member held => exact ⟨_, member, _, rfl, held⟩
  · rintro ⟨entry, member, rest, rfl, held⟩
    exact .entry member held

theorem Holds.names (listed : tree.Listed) (held : tree.Holds way bytes) :
    ∀ name ∈ way, Path.IsName name := by
  induction held with
  | file => exact fun name member => absurd member List.not_mem_nil
  | entry member held ih =>
    cases listed with
    | directory once names below =>
      exact List.forall_mem_cons.mpr ⟨names _ member, ih (below _ member)⟩

theorem Relisted.holds_iff (same : tree.Relisted other) :
    tree.Holds way bytes ↔ other.Holds way bytes := by
  induction same generalizing way with
  | refl => rfl
  | reordered same => simp only [holds_directory_iff, same.mem_iff]
  | within inner ih => simp only [holds_directory_iff, List.mem_append, List.mem_cons, or_and_right,
      exists_or, exists_eq_left, ih]
  | trans first second ih ihSecond => exact ih.trans ihSecond

theorem Relisted.listed (same : tree.Relisted other) (listed : tree.Listed) : other.Listed := by
  induction same with
  | refl => exact listed
  | reordered same =>
    cases listed with
    | directory once names below =>
      exact .directory ((same.map _).nodup_iff.mp once)
        (fun entry member => names entry (same.mem_iff.mpr member))
        (fun entry member => below entry (same.mem_iff.mpr member))
  | within inner ih =>
    cases listed with
    | directory once names below =>
      simp only [List.forall_mem_append, List.forall_mem_cons] at names below
      refine .directory (by simpa using once) ?_ ?_
      · simpa only [List.forall_mem_append, List.forall_mem_cons] using names
      · simpa only [List.forall_mem_append, List.forall_mem_cons] using
          ⟨below.1, ih below.2.1, below.2.2⟩
  | trans first second ih ihSecond => exact ihSecond (ih listed)

theorem quizFilesIn_eq_map (path : Path) (entries : List (Path.Name × FileTree)) :
    quizFilesIn path entries =
      entries.map fun entry => (entry.1, entry.2.quizFiles (Path.join path entry.1)) := by
  induction entries with
  | nil => rfl
  | cons entry entries ih => rw [quizFilesIn, ih, List.map_cons]

theorem exists_sorted (once : (entries.map (·.1)).Nodup) :
    ∃ sorted : List (Path.Name × FileTree), sorted.Perm entries ∧
      sorted.Pairwise (fun a b => a.1 < b.1) ∧
      ∀ path, (directory entries).quizFiles path =
        sorted.flatMap fun entry => entry.2.quizFiles (Path.join path entry.1) := by
  have same := List.mergeSort_perm entries fun a b => Path.Name.isAtMost a.1 b.1
  have ordered : (entries.mergeSort fun a b => Path.Name.isAtMost a.1 b.1).Pairwise
      fun a b => Path.Name.isAtMost a.1 b.1 = true :=
    List.pairwise_mergeSort (fun a b c => Path.Name.isAtMost_trans a.1 b.1 c.1)
      (fun a b => Path.Name.isAtMost_total a.1 b.1) entries
  -- Names are listed once, so the sort has no choice.
  have apart := List.pairwise_map.mp ((same.map (·.1)).nodup_iff.mpr once)
  refine ⟨_, same, (ordered.and apart).imp fun both =>
    Path.Name.lt_of_isAtMost both.1 both.2, ?_⟩
  intro path
  let found (entry : Path.Name × FileTree) := (entry.1, entry.2.quizFiles (Path.join path entry.1))
  have moved : (entries.map found).mergeSort (fun a b => Path.Name.isAtMost a.1 b.1) =
      (entries.mergeSort fun a b => Path.Name.isAtMost a.1 b.1).map found :=
    (List.map_mergeSort (by intros; rfl)).symm
  rw [quizFiles, quizFilesIn_eq_map, moved, List.flatMap_map]

theorem Listed.mem_quizFiles (listed : tree.Listed) {quiz : QuizFile} :
    quiz ∈ tree.quizFiles path ↔ ∃ way, tree.Holds way quiz.bytes ∧
      quiz.path = Path.locate path way ∧ Path.isQuiz quiz.path = true := by
  induction listed generalizing path with
  | file bytes =>
    obtain ⟨place, content⟩ := quiz
    simp only [quizFiles, holds_file_iff]
    constructor
    · intro member
      split_ifs at member with quiz
      · obtain ⟨rfl, rfl⟩ := QuizFile.mk.inj (List.mem_singleton.mp member)
        exact ⟨[], ⟨rfl, rfl⟩, rfl, quiz⟩
      · exact absurd member List.not_mem_nil
    · rintro ⟨way, ⟨rfl, rfl⟩, rfl, quiz⟩
      exact (if_pos quiz).symm ▸ List.mem_singleton_self _
  | directory once names below ih =>
    obtain ⟨sorted, perm, -, found⟩ := exists_sorted once
    simp only [found, List.mem_flatMap, perm.mem_iff, holds_directory_iff]
    constructor
    · rintro ⟨entry, member, found⟩
      obtain ⟨way, held, place, quiz⟩ := (ih entry member).mp found
      exact ⟨entry.1 :: way, ⟨entry, member, way, rfl, held⟩, place, quiz⟩
    · rintro ⟨way, ⟨entry, member, rest, rfl, held⟩, place, quiz⟩
      exact ⟨entry, member, (ih entry member).mpr ⟨rest, held, place, quiz⟩⟩

theorem Listed.components_of_mem_quizFiles (listed : tree.Listed) {name : Path.Name}
    (named : Path.IsName name) {quiz : QuizFile}
    (found : quiz ∈ tree.quizFiles (Path.join path name)) :
    ∃ rest, Path.components quiz.path = Path.components path ++ name :: rest := by
  obtain ⟨way, held, place, -⟩ := listed.mem_quizFiles.mp found
  rw [place]
  exact ⟨_, Path.components_locate (List.forall_mem_cons.mpr ⟨named, held.names listed⟩)⟩

theorem Listed.quizFiles_pairwise (listed : tree.Listed) (path : Path) :
    (tree.quizFiles path).Pairwise fun a b => Path.components a.path < Path.components b.path := by
  induction listed generalizing path with
  | file bytes =>
    rw [quizFiles]
    split_ifs
    · exact List.pairwise_singleton _ _
    · exact List.Pairwise.nil
  | directory once names below ih =>
    obtain ⟨sorted, perm, increasing, found⟩ := exists_sorted once
    rw [found, List.pairwise_flatMap]
    refine ⟨fun entry member => ih entry (perm.mem_iff.mp member) _, ?_⟩
    refine increasing.imp_of_mem fun {a b} member next less x found y foundNext => ?_
    rw [perm.mem_iff] at member next
    obtain ⟨rest, first⟩ := (below a member).components_of_mem_quizFiles (names a member) found
    obtain ⟨restNext, second⟩ :=
      (below b next).components_of_mem_quizFiles (names b next) foundNext
    rw [first, second]
    exact List.append_left_lt (List.cons_lt_cons_iff.mpr (.inl less))

theorem Listed.nodup_quizFiles (listed : tree.Listed) (path : Path) :
    (tree.quizFiles path).Nodup := by
  refine (listed.quizFiles_pairwise path).imp fun {a b} less same => ?_
  exact List.lt_irrefl _ (same ▸ less : Path.components b.path < Path.components b.path)

theorem Relisted.quizFiles_eq (same : tree.Relisted other) (listed : tree.Listed) (path : Path) :
    tree.quizFiles path = other.quizFiles path := by
  have listedOther := same.listed listed
  refine List.Perm.eq_of_pairwise (fun a b _ _ less back => absurd back (List.lt_asymm less))
    (listed.quizFiles_pairwise path) (listedOther.quizFiles_pairwise path) ?_
  refine (List.perm_ext_iff_of_nodup (listed.nodup_quizFiles path)
    (listedOther.nodup_quizFiles path)).mpr fun quiz => ?_
  simp only [listed.mem_quizFiles, listedOther.mem_quizFiles, same.holds_iff]

theorem Listed.exists_ways (listed : tree.Listed) (path : Path) :
    ∃ ways : List (List Path.Name × ByteArray),
      (∀ way bytes, (way, bytes) ∈ ways ↔
        tree.Holds way bytes ∧ Path.isQuiz (Path.locate path way) = true) ∧
      tree.quizFiles path = ways.map fun place => ⟨Path.locate path place.1, place.2⟩ := by
  choose! wayOf held place quiz using fun (quiz : QuizFile) (member : quiz ∈ tree.quizFiles path) =>
    listed.mem_quizFiles.mp member
  refine ⟨(tree.quizFiles path).map fun quiz => (wayOf quiz, quiz.bytes), fun way bytes => ?_, ?_⟩
  · rw [List.mem_map]
    constructor
    · rintro ⟨found, member, same⟩
      obtain ⟨rfl, rfl⟩ := Prod.mk.inj same
      exact ⟨held found member, place found member ▸ quiz found member⟩
    · rintro ⟨leads, named⟩
      have member : ⟨Path.locate path way, bytes⟩ ∈ tree.quizFiles path :=
        listed.mem_quizFiles.mpr ⟨way, leads, rfl, named⟩
      have back := Path.locate_injective (leads.names listed) ((held _ member).names listed)
        (place _ member)
      exact ⟨_, member, Prod.ext back.symm rfl⟩
  · rw [List.map_map]
    refine (List.map_id _).symm.trans (List.map_congr_left fun found member => ?_)
    exact congrArg (QuizFile.mk · found.bytes) (place found member)

end PlainQuiz.FileTree
