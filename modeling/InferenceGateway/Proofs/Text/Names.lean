import Mathlib
import InferenceGateway.Text.Blank
import InferenceGateway.Text.Case
import InferenceGateway.Text.Fields

/-!
# Names in texts

Names count up to their outer blanks and the case of ASCII letters, in any order of taking these
away. A list of names is one text with a separator between them, and no such text is that of two
lists.

* `SameButCase`: texts that differ at most in the case of ASCII letters.
* `Trimmed`: a text without its outer blanks; `trimmed_iff` says that `trim` finds it.
* `trim_trim`, `trim_lowerAscii`, `lowerAscii_lowerAscii`: the laws of taking blanks and case away.
* `Separated`: the pieces of a text between separators; `separated_iff` says that `fields` finds
  them.
-/

namespace InferenceGateway.Text

/-! ## ASCII case -/

/-- Two characters that are the same, or the two cases of one ASCII letter. -/
inductive SameLetter : Char → Char → Prop where
  | same (c : Char) : SameLetter c c
  | large {c d : Char} (letter : c.isUpper = true) (small : d.toNat = c.toNat + 32) :
    SameLetter c d
  | small {c d : Char} (letter : d.isUpper = true) (small : c.toNat = d.toNat + 32) :
    SameLetter c d

/-- Two texts that differ at most in the case of ASCII letters. -/
def SameButCase (a b : String) : Prop :=
  List.Forall₂ SameLetter a.toList b.toList

theorem isUpper_iff {c : Char} : c.isUpper = true ↔ 65 ≤ c.toNat ∧ c.toNat ≤ 90 := by
  simp [Char.isUpper, UInt32.le_iff_toNat_le, ← Char.toNat_val]

/-- A capital letter and its small one are 32 apart. -/
theorem toNat_toLower (c : Char) :
    c.toLower.toNat = if c.isUpper = true then c.toNat + 32 else c.toNat := by
  unfold Char.toLower
  split
  · next large =>
    have upper : c.isUpper = true := by simpa [Char.isUpper] using large
    have bounds := isUpper_iff.mp upper
    rw [if_pos upper]
    show (c.val + _).toNat = _
    rw [UInt32.toNat_add]
    show (c.toNat + 32) % 2 ^ 32 = _
    omega
  · next notLarge =>
    rw [if_neg]
    simpa [Char.isUpper] using notLarge

/-- Letters are the same but for case if their small ones are the same. -/
theorem sameLetter_iff {c d : Char} : SameLetter c d ↔ c.toLower = d.toLower := by
  rw [← Char.toNat_inj, toNat_toLower, toNat_toLower]
  constructor
  · intro h
    cases h with
    | same => rfl
    | large letter small =>
      have bounds := isUpper_iff.mp letter
      have lower : ¬d.isUpper = true := by rw [isUpper_iff]; omega
      rw [if_pos letter, if_neg lower, small]
    | small letter small =>
      have bounds := isUpper_iff.mp letter
      have lower : ¬c.isUpper = true := by rw [isUpper_iff]; omega
      rw [if_pos letter, if_neg lower, small]
  · intro h
    split at h <;> split at h
    · rw [Char.toNat_inj.mp (Nat.add_right_cancel h)]
      exact .same d
    · next letter _ => exact .large letter h.symm
    · next letter => exact .small letter h
    · rw [Char.toNat_inj.mp h]
      exact .same d

/-- Case is ignored letter by letter. -/
theorem equalsIgnoringCase_iff {a b : String} :
    equalsIgnoringCase a b = true ↔ SameButCase a b := by
  unfold equalsIgnoringCase SameButCase
  rw [beq_iff_eq, ← List.forall₂_eq_eq_eq, List.forall₂_map_left_iff, List.forall₂_map_right_iff]
  have letters : (fun c d : Char => c.toLower = d.toLower) = SameLetter := by
    funext c d
    exact propext sameLetter_iff.symm
  rw [letters]

@[simp] theorem lowerAscii_lowerAscii (s : String) :
    lowerAscii (lowerAscii s) = lowerAscii s := by
  simp [lowerAscii, Function.comp_def]

/-! ## Outer blanks -/

/-- No blank is an ASCII letter. -/
theorem toLower_of_isBlank {c : Char} (blank : isBlank c = true) : c.toLower = c := by
  unfold Char.toLower
  refine dif_neg fun ⟨low, high⟩ => ?_
  have low : 65 ≤ c.toNat := UInt32.le_iff_toNat_le.mp low
  have high : c.toNat ≤ 90 := UInt32.le_iff_toNat_le.mp high
  simp only [isBlank, blankRanges, List.any_cons, List.any_nil, Bool.or_eq_true,
    Bool.and_eq_true, decide_eq_true_eq, Bool.or_false] at blank
  omega

/-- The case of a letter does not make it a blank. -/
theorem isBlank_toLower (c : Char) : isBlank c.toLower = isBlank c := by
  by_cases large : c.isUpper = true
  · have bounds := isUpper_iff.mp large
    have small := toNat_toLower c
    rw [if_pos large] at small
    -- the letters of both cases lie between two ranges of blanks
    have letter {d : Char} (low : 65 ≤ d.toNat) (high : d.toNat ≤ 122) : isBlank d = false := by
      refine eq_false_of_ne_true fun blank => ?_
      simp only [isBlank, blankRanges, List.any_cons, List.any_nil, Bool.or_eq_true,
        Bool.and_eq_true, decide_eq_true_eq, Bool.or_false] at blank
      omega
    rw [letter (by omega) (by omega), letter (by omega) (by omega)]
  · have lower : c.toLower = c := Char.toNat_inj.mp (by rw [toNat_toLower, if_neg large])
    rw [lower]

theorem dropBlankEnd_eq (cs : List Char) : dropBlankEnd cs = cs.rdropWhile isBlank := rfl

/-- What is left of a list without a run in front. -/
theorem dropWhile_eq_iff {α : Type} {p : α → Bool} {xs ys : List α} :
    xs.dropWhile p = ys ↔ ∃ run, xs = run ++ ys ∧ (∀ x ∈ run, p x = true)
      ∧ ∀ x ∈ ys.head?, p x = false := by
  constructor
  · rintro rfl
    refine ⟨xs.takeWhile p, List.takeWhile_append_dropWhile.symm, fun x mem => ?_, fun x mem => ?_⟩
    · exact List.mem_takeWhile_imp mem
    · have front := List.head?_dropWhile_not p xs
      rw [Option.mem_def.mp mem] at front
      simpa using front
  · rintro ⟨run, rfl, all, front⟩
    rw [List.dropWhile_append_of_pos all]
    cases ys with
    | nil => rfl
    | cons y rest => exact List.dropWhile_cons_of_neg (by simp [front y rfl])

/-- What is left of a list without a run at its end. -/
theorem rdropWhile_eq_iff {α : Type} {p : α → Bool} {xs ys : List α} :
    xs.rdropWhile p = ys ↔ ∃ run, xs = ys ++ run ∧ (∀ x ∈ run, p x = true)
      ∧ ∀ x ∈ ys.getLast?, p x = false := by
  unfold List.rdropWhile
  rw [List.reverse_eq_iff, dropWhile_eq_iff, List.head?_reverse]
  constructor
  · rintro ⟨run, eq, all, last⟩
    refine ⟨run.reverse, ?_, fun x mem => all x (List.mem_reverse.mp mem), last⟩
    rw [← List.reverse_reverse xs, eq, List.reverse_append, List.reverse_reverse]
  · rintro ⟨run, rfl, all, last⟩
    exact ⟨run.reverse, List.reverse_append, fun x mem => all x (List.mem_reverse.mp mem), last⟩

/-- A text without the blanks around it. -/
structure Trimmed (s t : String) : Prop where
  within : ∃ before after, s.toList = before ++ t.toList ++ after
    ∧ (∀ c ∈ before, isBlank c = true) ∧ ∀ c ∈ after, isBlank c = true
  front : ∀ c ∈ t.toList.head?, isBlank c = false
  back : ∀ c ∈ t.toList.getLast?, isBlank c = false

/-- A text has one trimmed form. -/
theorem trimmed_iff {s t : String} : Trimmed s t ↔ trim s = t := by
  unfold trim
  rw [dropBlankEnd_eq, String.ofList_eq, rdropWhile_eq_iff]
  simp only [dropWhile_eq_iff]
  constructor
  · rintro ⟨⟨before, after, eq, blankBefore, blankAfter⟩, front, back⟩
    cases text : t.toList with
    | nil =>
      -- all the blanks are then in front
      rw [text, List.append_nil] at eq
      refine ⟨[], ⟨before ++ after, ?_, fun c mem => ?_, nofun⟩, nofun, nofun⟩
      · rw [eq, List.append_nil, List.append_nil]
      · exact (List.mem_append.mp mem).elim (blankBefore c) (blankAfter c)
    | cons c rest =>
      rw [text] at eq front back
      exact ⟨after, ⟨before, by rw [eq, List.append_assoc], blankBefore, front⟩, blankAfter, back⟩
  · rintro ⟨after, ⟨before, eq, blankBefore, front⟩, blankAfter, back⟩
    refine ⟨⟨before, after, by rw [eq, List.append_assoc], blankBefore, blankAfter⟩, ?_, back⟩
    intro c first
    exact front c (by rw [List.head?_append, Option.mem_def.mp first]; rfl)

/-- Trimming leaves nothing exactly of a text that holds nothing but blanks. -/
theorem trim_eq_empty_iff {s : String} : trim s = "" ↔ isBlankText s = true := by
  unfold isBlankText
  rw [← trimmed_iff, List.all_eq_true]
  constructor
  · rintro ⟨⟨before, after, eq, blankBefore, blankAfter⟩, -, -⟩ c mem
    rw [eq, String.toList_empty, List.append_nil] at mem
    exact (List.mem_append.mp mem).elim (blankBefore c) (blankAfter c)
  · intro all
    exact ⟨⟨s.toList, [], by simp, all, nofun⟩, nofun, nofun⟩

@[simp] theorem trim_trim (s : String) : trim (trim s) = trim s := by
  have trimmed : Trimmed s (trim s) := trimmed_iff.mpr rfl
  exact trimmed_iff.mp ⟨⟨[], [], by simp, nofun, nofun⟩, trimmed.front, trimmed.back⟩

/-- Trimming and lowering can be done in either order. -/
theorem trim_lowerAscii (s : String) : trim (lowerAscii s) = lowerAscii (trim s) := by
  have blanks : isBlank ∘ Char.toLower = isBlank := funext isBlank_toLower
  have atStart (cs : List Char) :
      (cs.map Char.toLower).dropWhile isBlank = (cs.dropWhile isBlank).map Char.toLower := by
    rw [List.dropWhile_map, blanks]
  unfold trim lowerAscii dropBlankEnd
  simp only [String.toList_ofList, atStart, ← List.map_reverse]

/-! ## Separated pieces -/

section

variable {separator : Char}

/-- The pieces of a text between separators. -/
structure Separated (separator : Char) (s : String) (pieces : List String) : Prop where
  some : pieces ≠ []
  joined : join (String.singleton separator) pieces = s
  within : ∀ piece ∈ pieces, separator ∉ piece.toList

/-- Cutting at a separator is the splitting of the core library. -/
theorem fieldsOf_eq (cs : List Char) : fieldsOf separator cs = cs.splitOn separator := by
  induction cs with
  | nil => rfl
  | cons c rest ih =>
    rw [fieldsOf, List.splitOn_cons_eq_if_modifyHead, ih]
    simp only [beq_iff_eq]
    congr 1
    obtain ⟨piece, pieces, eq⟩ :=
      List.exists_cons_of_ne_nil (List.splitOn_ne_nil separator rest)
    rw [eq]
    rfl

/-- No piece holds the separator. -/
theorem not_mem_of_mem_splitOn {cs piece : List Char} (mem : piece ∈ cs.splitOn separator) :
    separator ∉ piece := by
  induction cs generalizing piece with
  | nil =>
    cases List.mem_singleton.mp mem
    exact List.not_mem_nil
  | cons c rest ih =>
    rw [List.splitOn_cons_eq_if_modifyHead] at mem
    split at mem
    · rcases List.mem_cons.mp mem with rfl | later
      · exact List.not_mem_nil
      · exact ih later
    -- a character that does not separate goes to the front of the first piece
    · next other =>
      obtain ⟨front, pieces, eq⟩ :=
        List.exists_cons_of_ne_nil (List.splitOn_ne_nil separator rest)
      rw [eq] at mem ih
      rcases List.mem_cons.mp mem with rfl | later
      · rintro here
        rcases List.mem_cons.mp here with rfl | behind
        · exact other BEq.rfl
        · exact ih List.mem_cons_self behind
      · exact ih (List.mem_cons_of_mem _ later)

/-- The fields of a text are its pieces, and no others are. -/
theorem separated_iff {s : String} {pieces : List String} :
    Separated separator s pieces ↔ fields separator s = pieces := by
  unfold fields
  rw [fieldsOf_eq]
  constructor
  · rintro ⟨some, rfl, within⟩
    -- pieces without the separator can be told apart again once they are joined
    have whole : ∀ piece ∈ pieces.map String.toList, separator ∉ piece := by
      intro _ mem
      obtain ⟨piece, given, rfl⟩ := List.mem_map.mp mem
      exact within piece given
    unfold join
    rw [String.toList_ofList, String.toList_singleton,
      List.splitOn_intercalate separator whole (by simpa using some)]
    simp
  · rintro rfl
    refine ⟨?_, ?_, ?_⟩
    · simp
    · simp [join, Function.comp_def, List.intercalate_splitOn]
    · intro piece mem
      obtain ⟨cs, given, rfl⟩ := List.mem_map.mp mem
      rw [String.toList_ofList]
      exact not_mem_of_mem_splitOn given

end

end InferenceGateway.Text
