import PlainQuiz.Proofs.Text.Trim
import PlainQuiz.Text.LetterCase

set_option autoImplicit false

namespace PlainQuiz.Text

theorem of_isUpper (holds : Char → Prop)
    (each : ∀ offset < 26, holds (Char.ofNat ('A'.toNat + offset))) {c : Char}
    (upper : c.isUpper = true) : holds c := by
  have range : 'A'.val ≤ c.val ∧ c.val ≤ 'Z'.val := of_decide_eq_true upper
  have bounds : 65 ≤ c.toNat ∧ c.toNat ≤ 90 :=
    ⟨UInt32.le_iff_toNat_le.mp range.1, UInt32.le_iff_toNat_le.mp range.2⟩
  have shape : 'A'.toNat + (c.toNat - 65) = c.toNat := by
    have first : 'A'.toNat = 65 := rfl
    omega
  have found := each (c.toNat - 65) (by omega)
  rwa [shape, Char.ofNat_toNat] at found

theorem of_toLower (same : Char → Char → Prop) (refl : ∀ c, same c c)
    (each : ∀ offset < 26, same (Char.ofNat ('A'.toNat + offset))
      (Char.ofNat ('A'.toNat + offset)).toLower) (c : Char) : same c c.toLower := by
  by_cases upper : c.isUpper = true
  · exact of_isUpper (fun c => same c c.toLower) each upper
  · have kept : c.toLower = c := dif_neg fun range => upper (decide_eq_true range)
    rw [kept]
    exact refl c

theorem isBlank_toLower (c : Char) : isBlank c.toLower = isBlank c :=
  of_toLower (fun c d => isBlank d = isBlank c) (fun _ => rfl) (by decide) c

theorem isCased_toLower (c : Char) : isCased c.toLower = isCased c :=
  of_toLower (fun c d => isCased d = isCased c) (fun _ => rfl) (by decide) c

theorem isAlpha_toLower (c : Char) : c.toLower.isAlpha = c.isAlpha :=
  of_toLower (fun c d => d.isAlpha = c.isAlpha) (fun _ => rfl) (by decide) c

theorem isCaseIgnorable_toLower (c : Char) : isCaseIgnorable c.toLower = isCaseIgnorable c :=
  of_toLower (fun c d => isCaseIgnorable d = isCaseIgnorable c) (fun _ => rfl) (by decide) c

theorem lowerChar_toLower (c : Char) : lowerChar c.toLower = lowerChar c :=
  of_toLower (fun c d => lowerChar d = lowerChar c) (fun _ => rfl) (by decide) c

theorem toLower_eq_sigma_iff (c : Char) : c.toLower = 'Σ' ↔ c = 'Σ' :=
  of_toLower (fun c d => d = 'Σ' ↔ c = 'Σ') (fun _ => Iff.rfl) (by decide) c

theorem startsCased_map_toLower (text : Text) :
    startsCased (text.map Char.toLower) = startsCased text := by
  induction text with
  | nil => rfl
  | cons c rest ih =>
    unfold startsCased at ih ⊢
    by_cases ignorable : isCaseIgnorable c = true
    · have later : isCaseIgnorable c.toLower = true := by rwa [isCaseIgnorable_toLower]
      rw [List.map_cons, List.dropWhile_cons_of_pos later, List.dropWhile_cons_of_pos ignorable, ih]
    · have later : ¬ isCaseIgnorable c.toLower = true := by rwa [isCaseIgnorable_toLower]
      rw [List.map_cons, List.dropWhile_cons_of_neg later, List.dropWhile_cons_of_neg ignorable]
      exact isCased_toLower c

theorem lowerFrom_map_toLower (afterCased : Bool) (text : Text) :
    lowerFrom afterCased (text.map Char.toLower) = lowerFrom afterCased text := by
  induction text generalizing afterCased with
  | nil => rfl
  | cons c rest ih =>
    simp only [List.map_cons, lowerFrom, toLower_eq_sigma_iff, startsCased_map_toLower,
      lowerChar_toLower, isCaseIgnorable_toLower, isCased_toLower, ih]

theorem lower_map_toLower (text : Text) : lower (text.map Char.toLower) = lower text :=
  lowerFrom_map_toLower false text

theorem map_toLower_eq {a b : Text} (same : sameIgnoringAsciiCase a b = true) :
    a.map Char.toLower = b.map Char.toLower := by
  simpa [sameIgnoringAsciiCase] using same

theorem lower_eq_of_same {a b : Text} (same : sameIgnoringAsciiCase a b = true) :
    lower a = lower b := by
  rw [← lower_map_toLower a, map_toLower_eq same, lower_map_toLower]

theorem trim_map_toLower (text : Text) :
    trim (text.map Char.toLower) = (trim text).map Char.toLower := by
  have blank : isBlank ∘ Char.toLower = isBlank := funext isBlank_toLower
  simp only [trim, trimEnd, trimStart, List.dropWhile_map, blank, ← List.map_reverse]

theorem sameIgnoringAsciiCase_trim {a b : Text} (same : sameIgnoringAsciiCase a b = true) :
    sameIgnoringAsciiCase (trim a) (trim b) = true := by
  rw [sameIgnoringAsciiCase, beq_iff_eq, ← trim_map_toLower, ← trim_map_toLower,
    map_toLower_eq same]

theorem lowerChar_ne_nil (c : Char) : lowerChar c ≠ [] := by
  unfold lowerChar
  split_ifs
  · exact List.cons_ne_nil _ _
  · exact List.cons_ne_nil _ _
  · split <;> exact List.cons_ne_nil _ _

theorem lower_eq_nil_iff {text : Text} : lower text = [] ↔ text = [] := by
  cases text with
  | nil => simp
  | cons c rest =>
    have filled := lowerChar_ne_nil c
    simp only [lower, lowerFrom, List.append_eq_nil_iff, reduceCtorEq, iff_false, not_and]
    split_ifs <;> simp_all

-- A small letter that no character beyond ASCII is lowered to.
def isPlain (c : Char) : Bool := c.isLower && c != 'i' && c != 'k'

-- The Kelvin sign alone has a lower-case form among the ASCII letters.
theorem target_of_mem_lowerRuns : ∀ run ∈ lowerRuns,
    0x80 ≤ run.target ∨ run.first = run.last ∧ run.target = 'k'.toNat := by
  decide +kernel

theorem toNat_lt_of_isPlain {c : Char} (plain : isPlain c = true) :
    0x61 ≤ c.toNat ∧ c.toNat < 0x80 := by
  simp only [isPlain, Bool.and_eq_true] at plain
  obtain ⟨least, most⟩ := Bool.and_eq_true_iff.mp plain.1.1
  have bounds : 97 ≤ c.toNat ∧ c.toNat ≤ 122 :=
    ⟨UInt32.le_iff_toNat_le.mp (of_decide_eq_true least),
      UInt32.le_iff_toNat_le.mp (of_decide_eq_true most)⟩
  omega

-- An ASCII character that no character beyond ASCII is lowered to.
def isOwn (c : Char) : Bool :=
  isAscii c && c != 'i' && c != 'k' && c != '\x00'

theorem isOwn_of_isPlain {c : Char} (plain : isPlain c = true) : isOwn c = true := by
  obtain ⟨least, most⟩ := toNat_lt_of_isPlain plain
  have filled : c ≠ '\x00' := by
    rintro rfl
    exact absurd least (by decide)
  simp only [isPlain, Bool.and_eq_true] at plain
  simp [isOwn, isAscii, most, filled, plain.1.2, plain.2]

theorem isAscii_of_mem_lowerChar {c d : Char} (member : d ∈ lowerChar c) (own : isOwn d = true) :
    isAscii c = true := by
  by_contra beyond
  unfold lowerChar at member
  rw [if_neg beyond] at member
  split_ifs at member with dotted
  · rcases List.mem_pair.mp member with rfl | rfl <;> exact absurd own (by decide)
  · split at member
    next run found =>
      obtain rfl := List.mem_singleton.mp member
      have covered := List.find?_some found
      simp only [LowerRun.covers, Bool.and_eq_true, decide_eq_true_eq] at covered
      rcases target_of_mem_lowerRuns run (List.mem_of_find?_eq_some found) with high | kelvin
      · have far : 0x80 ≤ run.apply c.toNat := by
          rw [LowerRun.apply]
          omega
        by_cases valid : (run.apply c.toNat).isValidChar
        · have same : (Char.ofNat (run.apply c.toNat)).toNat = run.apply c.toNat := by
            rw [Char.ofNat, dif_pos valid]
            rfl
          simp [isOwn, isAscii, same, Nat.not_lt.mpr far] at own
        · have zero : Char.ofNat (run.apply c.toNat) = '\x00' := by
            rw [Char.ofNat, dif_neg valid]
            rfl
          simp [isOwn, zero] at own
      · have letter : run.apply c.toNat = 'k'.toNat := by
          rw [LowerRun.apply]
          omega
        rw [letter] at own
        exact absurd own (by decide)
    next =>
      obtain rfl := List.mem_singleton.mp member
      simp only [isOwn, Bool.and_eq_true] at own
      exact beyond own.1.1.1

theorem isAscii_of_lowerChar {c : Char} (plain : ∀ d ∈ lowerChar c, isPlain d = true) :
    isAscii c = true := by
  obtain ⟨d, member⟩ := List.exists_mem_of_ne_nil _ (lowerChar_ne_nil c)
  exact isAscii_of_mem_lowerChar member (isOwn_of_isPlain (plain d member))

theorem lowerFrom_of_isAscii {text : Text} (ascii : ∀ c ∈ text, isAscii c = true)
    (afterCased : Bool) : lowerFrom afterCased text = text.map Char.toLower := by
  induction text generalizing afterCased with
  | nil => rfl
  | cons c rest ih =>
    have here := ascii c (by simp)
    have notSigma : c ≠ 'Σ' := by
      rintro rfl
      exact absurd here (by decide)
    rw [lowerFrom, if_neg notSigma, lowerChar_of_isAscii here,
      ih fun d member => ascii d (List.mem_cons_of_mem c member)]
    rfl

theorem isAscii_of_lowerFrom {text : Text} {afterCased : Bool}
    (plain : ∀ d ∈ lowerFrom afterCased text, isPlain d = true) : ∀ c ∈ text, isAscii c = true := by
  induction text generalizing afterCased with
  | nil => simp
  | cons c rest ih =>
    rw [lowerFrom] at plain
    have later := ih fun d member => plain d (List.mem_append_right _ member)
    have notSigma : c ≠ 'Σ' := by
      rintro rfl
      have here := fun d member => plain d (List.mem_append_left _ member)
      rw [if_pos rfl] at here
      split_ifs at here
      · exact absurd (here 'ς' (by simp)) (by decide)
      · exact absurd (here 'σ' (by simp)) (by decide)
    rw [if_neg notSigma] at plain
    have here := isAscii_of_lowerChar fun d member => plain d (List.mem_append_left _ member)
    simpa using ⟨here, later⟩

theorem lower_eq_iff {text word : Text} (plain : ∀ c ∈ word, isPlain c = true) :
    lower text = word ↔ sameIgnoringAsciiCase text word = true := by
  have small : word.map Char.toLower = word := by
    refine (List.map_congr_left fun c member => ?_).trans (List.map_id word)
    have small := (toNat_lt_of_isPlain (plain c member)).1
    refine dif_neg fun upper => ?_
    have capital : c.toNat ≤ 90 := UInt32.le_iff_toNat_le.mp upper.2
    omega
  have ascii : ∀ c ∈ word, isAscii c = true := fun c member => by
    simpa [isAscii] using (toNat_lt_of_isPlain (plain c member)).2
  constructor
  · rintro rfl
    have asciiText := isAscii_of_lowerFrom plain
    rw [sameIgnoringAsciiCase, beq_iff_eq, small]
    exact (lowerFrom_of_isAscii asciiText false).symm
  · intro same
    rw [lower_eq_of_same same]
    exact (lowerFrom_of_isAscii ascii false).trans small

theorem exists_of_mem_lowerFrom {text : Text} {afterCased : Bool} {d : Char}
    (member : d ∈ lowerFrom afterCased text) (own : isOwn d = true) :
    ∃ c ∈ text, c.toLower = d := by
  induction text generalizing afterCased with
  | nil => simp [lowerFrom] at member
  | cons c rest ih =>
    rw [lowerFrom, List.mem_append] at member
    rcases member with here | later
    · split_ifs at here
      · obtain rfl := List.mem_singleton.mp here
        exact absurd own (by decide)
      · obtain rfl := List.mem_singleton.mp here
        exact absurd own (by decide)
      · rw [lowerChar_of_isAscii (isAscii_of_mem_lowerChar here own), List.mem_singleton] at here
        exact ⟨c, List.mem_cons_self, here.symm⟩
    · obtain ⟨other, among, same⟩ := ih later
      exact ⟨other, List.mem_cons_of_mem c among, same⟩

theorem mem_lowerFrom_of_isAscii {text : Text} {c : Char} (member : c ∈ text)
    (ascii : isAscii c = true) (afterCased : Bool) : c.toLower ∈ lowerFrom afterCased text := by
  induction text generalizing afterCased with
  | nil => simp at member
  | cons first rest ih =>
    rw [lowerFrom, List.mem_append]
    rcases List.mem_cons.mp member with rfl | later
    · have notSigma : c ≠ 'Σ' := by
        rintro rfl
        exact absurd ascii (by decide)
      rw [if_neg notSigma, lowerChar_of_isAscii ascii]
      exact .inl List.mem_cons_self
    · exact .inr (ih later _)

theorem toLower_eq_self {c : Char} (mute : c.toLower.isAlpha = false) : c.toLower = c :=
  of_toLower (fun c d => d.isAlpha = false → d = c) (fun _ _ => rfl) (by decide) c mute

theorem mem_lower_iff {mark : Char} (own : isOwn mark = true) (mute : mark.isAlpha = false)
    (text : Text) : mark ∈ lower text ↔ mark ∈ text := by
  constructor
  · intro member
    obtain ⟨c, among, rfl⟩ := exists_of_mem_lowerFrom member own
    rwa [toLower_eq_self mute]
  · intro member
    have ascii : isAscii mark = true := by
      simp only [isOwn, Bool.and_eq_true] at own
      exact own.1.1.1
    have kept : mark.toLower = mark := toLower_eq_self (by rwa [isAlpha_toLower])
    exact kept ▸ mem_lowerFrom_of_isAscii member ascii false

end PlainQuiz.Text
