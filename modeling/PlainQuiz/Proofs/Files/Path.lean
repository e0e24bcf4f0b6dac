import Mathlib.Data.List.TakeWhile
import Mathlib.Tactic.MkIffOfInductiveProp
import PlainQuiz.Files.Quizzes

set_option autoImplicit false

namespace PlainQuiz.Path

@[mk_iff]
structure IsName (name : Name) : Prop where
  filled : name ≠ []
  whole : slash ∉ name
  notHere : name ≠ [dot]
  notAbove : name ≠ [dot, dot]

instance (name : Name) : Decidable (IsName name) := decidable_of_iff' _ (isName_iff name)

def HasQuizEnding (name : Name) : Prop :=
  ∃ stem ending : Name, name = stem ++ dot :: ending ∧ stem ≠ [] ∧
    ending ∈ [("quiz" : Path), "md", "markdown"]

def locate (directory : Path) (way : List Name) : Path := way.foldl join directory

namespace Name

variable {name other : Name}

theorem isAtMost_iff : isAtMost name other = true ↔ ¬other < name := by
  rw [isAtMost, Bool.not_eq_true', List.lex_eq_false_iff_not_lex]
  have order : (fun a b : UInt8 => decide (a.toNat < b.toNat) = true) = (· < ·) := by
    funext a b
    exact propext (decide_eq_true_iff.trans UInt8.lt_iff_toNat_lt.symm)
  rw [order]
  rfl

theorem isAtMost_trans (name middle other : Name) (first : isAtMost name middle = true)
    (second : isAtMost middle other = true) : isAtMost name other = true := by
  rw [isAtMost_iff] at first second ⊢
  exact Std.not_lt.mpr (Std.le_trans (Std.not_lt.mp first) (Std.not_lt.mp second))

theorem isAtMost_total (name other : Name) :
    (isAtMost name other || isAtMost other name) = true := by
  rw [Bool.or_eq_true, isAtMost_iff, isAtMost_iff]
  exact not_and_or.mp fun both => List.lt_asymm both.1 both.2

theorem lt_of_isAtMost (least : isAtMost name other = true) (differ : name ≠ other) :
    name < other := by
  rw [isAtMost_iff] at least
  exact (Std.lt_trichotomy name other).resolve_right (not_or.mpr ⟨differ, least⟩)

end Name

variable {directory path : Path} {name : Name} {way : List Name}

theorem components_cons_slash (before after : Path) :
    components (before ++ slash :: after) = components before ++ components after := by
  rw [components, List.splitOn_append_cons_self, List.filter_append]
  rfl

theorem IsName.components (valid : IsName name) : components name = [name] := by
  rw [Path.components, List.splitOn_eq_singleton valid.whole]
  simp [valid.filled]

theorem components_join (valid : IsName name) :
    components (join directory name) = components directory ++ [name] := by
  unfold join
  split_ifs with ended
  · rcases ended with rfl | slash
    · exact valid.components
    · obtain ⟨before, rfl⟩ := List.getLast?_eq_some_iff.mp slash
      have nothing : Path.components [] = [] := rfl
      rw [List.append_assoc, List.singleton_append, components_cons_slash, components_cons_slash,
        valid.components, nothing, List.append_nil]
  · rw [components_cons_slash, valid.components]

theorem components_locate (names : ∀ name ∈ way, IsName name) :
    components (locate directory way) = components directory ++ way := by
  induction way generalizing directory with
  | nil => exact (List.append_nil _).symm
  | cons name way ih =>
    rw [List.forall_mem_cons] at names
    rw [locate, List.foldl_cons, ← locate, ih names.2, components_join names.1, List.append_assoc]
    rfl

theorem locate_injective {other : List Name} (names : ∀ name ∈ way, IsName name)
    (otherNames : ∀ name ∈ other, IsName name)
    (same : locate directory way = locate directory other) : way = other := by
  have components := congrArg components same
  rwa [components_locate names, components_locate otherNames, List.append_cancel_left_eq]
    at components

theorem name?_join (valid : IsName name) : name? (join directory name) = some name := by
  rw [name?, components_join valid, List.filter_append]
  simp [valid.notHere, valid.notAbove]

theorem extension?_join_dotted {stem ending : Name} (valid : IsName (stem ++ dot :: ending))
    (plain : dot ∉ ending) :
    extension? (join directory (stem ++ dot :: ending)) =
      if stem = [] then none else some ending := by
  have passed : ∀ byte ∈ ending.reverse, decide (byte ≠ dot) = true := fun byte member =>
    decide_eq_true fun same => plain (same ▸ List.mem_reverse.mp member)
  have cut : (((stem ++ dot :: ending).reverse.takeWhile (· ≠ dot)).reverse) = ending := by
    rw [List.reverse_append, List.reverse_cons, List.append_assoc,
      List.takeWhile_append_of_pos passed]
    simp
  simp only [extension?, name?_join valid, cut]
  cases stem with
  | nil => simp
  | cons byte stem =>
    have long : ending.length + 1 < (byte :: stem ++ dot :: ending).length := by
      rw [List.length_append, List.length_cons, List.length_cons]
      omega
    rw [if_pos long, if_neg (List.cons_ne_nil byte stem)]

theorem extension?_join_plain (valid : IsName name) (plain : dot ∉ name) :
    extension? (join directory name) = none := by
  have whole : name.reverse.takeWhile (· ≠ dot) = name.reverse :=
    List.takeWhile_eq_self_iff.mpr fun byte member =>
      decide_eq_true fun same => plain (same ▸ List.mem_reverse.mp member)
  simp only [extension?, name?_join valid, whole, List.reverse_reverse]
  exact if_neg (by omega)

theorem plain_of_mem_quizEndings {ending : Name}
    (known : ending ∈ [("quiz" : Path), "md", "markdown"]) : dot ∉ ending := by
  revert known
  simp only [List.mem_cons, List.not_mem_nil, or_false]
  rintro (rfl | rfl | rfl) <;> decide

theorem isQuiz_join_iff (valid : IsName name) :
    isQuiz (join directory name) = true ↔ HasQuizEnding name := by
  constructor
  · intro quiz
    by_cases dotted : dot ∈ name
    · obtain ⟨before, after, cut, plain⟩ :=
        List.eq_append_cons_of_mem (List.mem_reverse.mpr dotted)
      obtain rfl : name = after.reverse ++ dot :: before.reverse := by
        rw [← List.reverse_reverse name, cut]
        simp
      rw [isQuiz, extension?_join_dotted valid (by simpa using plain)] at quiz
      by_cases first : after.reverse = []
      · rw [if_pos first] at quiz
        cases quiz
      · rw [if_neg first] at quiz
        exact ⟨_, _, rfl, first, List.contains_iff_mem.mp quiz⟩
    · rw [isQuiz, extension?_join_plain valid dotted] at quiz
      cases quiz
  · rintro ⟨stem, ending, rfl, filled, known⟩
    rw [isQuiz, extension?_join_dotted valid (plain_of_mem_quizEndings known), if_neg filled]
    exact List.contains_iff_mem.mpr known

end PlainQuiz.Path
