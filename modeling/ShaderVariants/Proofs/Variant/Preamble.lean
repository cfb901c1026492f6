import ShaderVariants.Proofs.Text.Lines
import ShaderVariants.Variant.Preamble

/-!
Version lines, and a code without them.

`remove` goes from character to character, but it decides for whole lines: what it keeps are the
lines that are not version lines, as they are (`remove_eq_filter`).
-/
namespace ShaderVariants.Preamble

open Text

variable {line after : Text}

/-- A line with a version directive: `#` and the word, each after any blanks, and the word ends
there. -/
def IsVersionLine (line : Text) : Prop :=
  ∃ indent gap after, line = indent ++ '#' :: (gap ++ (versionWord ++ after)) ∧
    (∀ c ∈ indent, isIndent c = true) ∧ (∀ c ∈ gap, isIndent c = true) ∧ wordEnds after = true

theorem dropWhile_blanks {blanks : Text} (blank : ∀ c ∈ blanks, isIndent c = true) {c : Char}
    (solid : isIndent c = false) (rest : Text) :
    (blanks ++ c :: rest).dropWhile isIndent = c :: rest := by
  rw [List.dropWhile_append_of_pos blank, List.dropWhile_cons_of_neg (by simp [solid])]

theorem versionAhead_iff : versionAhead line = true ↔ IsVersionLine line := by
  constructor
  · intro ahead
    unfold versionAhead at ahead
    split at ahead
    · next rest hash =>
        split at ahead
        · next after word =>
            have gap_and_word := List.takeWhile_append_dropWhile (p := isIndent) (l := rest)
            have whole := List.takeWhile_append_dropWhile (p := isIndent) (l := line)
            rw [eq_append_of_after? word] at gap_and_word
            rw [hash, ← gap_and_word] at whole
            exact ⟨_, _, after, whole.symm, fun c => List.mem_takeWhile_imp,
              fun c => List.mem_takeWhile_imp, ahead⟩
        · cases ahead
    · cases ahead
  · rintro ⟨indent, gap, after, rfl, indent_blank, gap_blank, ends⟩
    have word : after? versionWord (versionWord ++ after) = some after := after?_append _ _
    have front : (gap ++ (versionWord ++ after)).dropWhile isIndent = versionWord ++ after :=
      dropWhile_blanks gap_blank (by decide) _
    rw [versionAhead, dropWhile_blanks indent_blank (by decide)]
    simp only [front, word, ends]

instance (line : Text) : Decidable (IsVersionLine line) :=
  decidable_of_iff _ versionAhead_iff

theorem wordEnds_append_break (after rest : Text) :
    wordEnds (after ++ '\n' :: rest) = wordEnds after := by
  cases after with
  | nil =>
      have outside : isWordCharacter '\n' = false := by decide +kernel
      simp [wordEnds, outside]
  | cons c after => rfl

/-- What follows a line does not matter. -/
theorem isVersionLine_append_break (line rest : Text) :
    IsVersionLine (line ++ '\n' :: rest) ↔ IsVersionLine line := by
  constructor
  · rintro ⟨indent, gap, after, whole, indent_blank, gap_blank, ends⟩
    have clean : '\n' ∉ indent ++ '#' :: (gap ++ versionWord) := by
      have breaks : isIndent '\n' = false := rfl
      have outside_indent : '\n' ∉ indent := fun member => by simp [indent_blank _ member] at breaks
      have outside_gap : '\n' ∉ gap := fun member => by simp [gap_blank _ member] at breaks
      simp [outside_indent, outside_gap, versionWord]
    have parts : line ++ '\n' :: rest = indent ++ '#' :: (gap ++ versionWord) ++ after := by
      rw [whole]
      simp only [List.append_assoc, List.cons_append]
    obtain ⟨follows, rfl⟩ := prefix_of_prefix_append_cons clean ⟨after, parts.symm⟩
    rw [List.append_assoc, List.append_cancel_left_eq] at parts
    rw [← parts, wordEnds_append_break] at ends
    refine ⟨indent, gap, follows, ?_, indent_blank, gap_blank, ends⟩
    simp only [List.append_assoc, List.cons_append]
  · rintro ⟨indent, gap, after, rfl, indent_blank, gap_blank, ends⟩
    refine ⟨indent, gap, after ++ '\n' :: rest, ?_, indent_blank, gap_blank, ?_⟩
    · simp only [List.append_assoc, List.cons_append]
    · rw [wordEnds_append_break, ends]

theorem remove_dropping_last (unbroken : '\n' ∉ line) : remove .dropping line = [] := by
  induction line with
  | nil => rfl
  | cons c line ih =>
      simp only [List.mem_cons, not_or] at unbroken
      rw [remove_dropping_cons, if_neg (Ne.symm unbroken.1), ih unbroken.2]

theorem remove_dropping_line (unbroken : '\n' ∉ line) (rest : Text) :
    remove .dropping (line ++ '\n' :: rest) = remove .deciding rest := by
  induction line with
  | nil => rfl
  | cons c line ih =>
      simp only [List.mem_cons, not_or] at unbroken
      rw [List.cons_append, remove_dropping_cons, if_neg (Ne.symm unbroken.1), ih unbroken.2]

theorem remove_copying_last (unbroken : '\n' ∉ line) : remove .copying line = line := by
  induction line with
  | nil => rfl
  | cons c line ih =>
      simp only [List.mem_cons, not_or] at unbroken
      rw [remove_copying_cons, if_neg (Ne.symm unbroken.1), ih unbroken.2]

theorem remove_copying_line (unbroken : '\n' ∉ line) (rest : Text) :
    remove .copying (line ++ '\n' :: rest) = line ++ '\n' :: remove .deciding rest := by
  induction line with
  | nil => rfl
  | cons c line ih =>
      simp only [List.mem_cons, not_or] at unbroken
      rw [List.cons_append, remove_copying_cons, if_neg (Ne.symm unbroken.1), ih unbroken.2,
        List.cons_append]

/-- At the beginning of a line that is no version line there is nothing to decide. -/
theorem remove_deciding (kept : ¬ IsVersionLine line) :
    remove .deciding line = remove .copying line := by
  cases line with
  | nil => rfl
  | cons c line => rw [remove_deciding_cons, if_neg (mt versionAhead_iff.mp kept)]

theorem remove_last (unbroken : '\n' ∉ line) :
    remove .deciding line = if IsVersionLine line then [] else line := by
  by_cases version : IsVersionLine line
  · rw [if_pos version]
    cases line with
    | nil => rfl
    | cons c line =>
        simp only [List.mem_cons, not_or] at unbroken
        rw [remove_deciding_cons, if_pos (versionAhead_iff.mpr version),
          remove_dropping_last unbroken.2]
  · rw [if_neg version, remove_deciding version, remove_copying_last unbroken]

theorem remove_line (unbroken : '\n' ∉ line) (rest : Text) :
    remove .deciding (line ++ '\n' :: rest) =
      (if IsVersionLine line then [] else line ++ ['\n']) ++ remove .deciding rest := by
  by_cases version : IsVersionLine line
  · rw [if_pos version]
    cases line with
    | nil => exact absurd (versionAhead_iff.mpr version) (by simp [versionAhead])
    | cons c line =>
        simp only [List.mem_cons, not_or] at unbroken
        have ahead := versionAhead_iff.mpr ((isVersionLine_append_break _ rest).mpr version)
        rw [List.cons_append] at ahead ⊢
        rw [remove_deciding_cons, if_pos ahead, remove_dropping_line unbroken.2, List.nil_append]
  · rw [if_neg version, remove_deciding (mt (isVersionLine_append_break line rest).mp version),
      remove_copying_line unbroken]
    simp only [List.append_assoc, List.singleton_append]

/-- Whole lines are removed, and all others stay as they are. -/
theorem remove_eq_filter (code : Text) :
    remove .deciding code =
      ((lines code).filter fun line => ¬ IsVersionLine line).flatten := by
  induction code using lines_induction with
  | last line unbroken =>
      by_cases empty : line = []
      · rw [empty]
        rfl
      · rw [remove_last unbroken, lines_of_unbroken unbroken empty]
        by_cases version : IsVersionLine line <;> simp [version]
  | next line rest unbroken ih =>
      have same := isVersionLine_append_break line []
      rw [remove_line unbroken, lines_cons_line unbroken, ih]
      by_cases version : IsVersionLine line
      · simp [version, same.mpr version]
      · simp [version, mt same.mp version]

end ShaderVariants.Preamble
